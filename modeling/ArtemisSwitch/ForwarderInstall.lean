import ArtemisSwitch.ForwarderMeta
import ArtemisSwitch.LaunchRequest
import ArtemisSwitch.Library.Brackets
import ArtemisSwitch.Library.Runs

/-!
# Installing a forwarder

`installForwarder`: the services that are opened and closed, the three contents that are
registered, the meta database and the application record.  The SD card is a parameter: what its
calls do is stated where it is relied on.
-/

namespace ArtemisSwitch.Forwarder.Install
open ByteLayout Brackets Runs Launch HostStore

/-! ## The platform -/

abbrev Result := UInt32

inductive Service
  | splCrypto
  | ncm
  | ns
  | contentStorage
  | metaDatabase
  | applicationManager
  deriving DecidableEq

/-- The calls whose failure ends the installation. -/
inductive Stage
  | splCryptoInitialize
  | deriveHeaderKey
  | ncmInitialize
  | nsInitialize
  | createMetaNca
  | openContentStorage
  | generatePlaceHolderId
  | createPlaceHolder
  | writePlaceHolder
  | register
  | openContentMetaDatabase
  | databaseSet
  | databaseCommit
  | pushApplicationRecord
  | invalidateApplicationControlCache
  deriving DecidableEq

inductive Failure
  | badInput
  | notFound
  | call (stage : Stage) (result : Result)
  deriving DecidableEq

abbrev PlaceHolderId := Bytes

/-- The SD card, with what can be seen of its state. -/
structure Card (σ : Type) where
  generatePlaceHolderId : σ → Except Result PlaceHolderId × σ
  deletePlaceHolder : PlaceHolderId → σ → σ
  createPlaceHolder : ContentId → PlaceHolderId → ℕ → σ → Result × σ
  writePlaceHolder : PlaceHolderId → ℕ → Bytes → σ → Result × σ
  delete : ContentId → σ → σ
  register : ContentId → PlaceHolderId → σ → Result × σ
  openDatabase : σ → σ
  databaseSet : NcmContentMetaKey → ForwarderContentMetaData → σ → Result × σ
  databaseCommit : σ → Result × σ
  deleteApplicationCompletely : UInt64 → σ → σ
  deleteApplicationEntity : UInt64 → σ → σ
  placeholder : σ → PlaceHolderId → Option Bytes
  registered : σ → ContentId → Option Bytes
  pending : σ → NcmContentMetaKey → Option ForwarderContentMetaData
  listed : σ → NcmContentMetaKey → Option ForwarderContentMetaData

/-- The other answers to one installation. -/
structure Answers where
  splCryptoInitialize : Result := 0
  deriveHeaderKey : Result := 0
  ncmInitialize : Result := 0
  nsInitialize : Result := 0
  openContentStorage : Result := 0
  openContentMetaDatabase : Result := 0
  recordManager : Result := 0
  pushRecord : Result := 0
  cacheManager : Result := 0
  invalidateCache : Result := 0

/-- The card, the services in the order of their calls, and the records that were pushed. -/
structure World (σ : Type) where
  card : σ
  calls : List (Brackets.Event Service) := []
  records : List (UInt64 × ContentStorageRecord) := []

namespace World
variable {σ : Type}

def opened (w : World σ) (s : Service) : World σ := { w with calls := w.calls ++ [.acquired s] }

/-- The exits of the services, one after the other. -/
def closed (w : World σ) (services : List Service) : World σ :=
  { w with calls := w.calls ++ services.map .released }

end World

/-! ## The source -/

/-- What one installation starts from.  `ncas` are the program and the control NCA that are made
for a title. -/
structure Request where
  launchPath : Bytes
  host : Host
  app : App
  icon : Bytes
  mainNso : Bytes
  mainNpdm : Bytes
  ncas : UInt64 → Fin 2 → NcaEntry

def formatNroPathForForwarder (path : Bytes) : Bytes :=
  let path := if ascii "sdmc:" <+: path then path else ascii "sdmc:" ++ path
  if space ∈ path then [34] ++ path ++ [34] else path

/-- The path alone, or the path and the arguments. -/
def forwarderArgs (x : Request) : Bytes :=
  let nroPath := formatNroPathForForwarder x.launchPath
  let args := buildForwarderArgs x.host x.app
  if args = [] then nroPath else nroPath ++ [space] ++ args

section
variable (sha256 : Bytes → Hash) (encryptNcaHeader : Bytes → Bytes)

/-- The bits of the hash that make a title id. -/
def titleBits (x : Request) : UInt64 :=
  .ofNat (ofLe ((sha256 (formatNroPathForForwarder x.launchPath ++ forwarderArgs x)).1.take 8)) &&&
    0x00FFFFFFFFFFF000

def titleId (x : Request) : UInt64 := 0x0500000000000000 ||| titleBits sha256 x

def oldTitleId (x : Request) : UInt64 := 0x0100000000000000 ||| titleBits sha256 x

def metaNca (x : Request) : Option NcaMetaEntry :=
  createMetaNca sha256 encryptNcaHeader (titleId sha256 x) NcmStorageId_SdCard
    (x.ncas (titleId sha256 x))

/-- The contents in the order in which they are registered. -/
def contents (x : Request) (metaEntry : NcaMetaEntry) : List NcaEntry :=
  List.ofFn (x.ncas (titleId sha256 x)) ++ [metaEntry.ncaEntry]

variable {σ : Type} (sd : Card σ)

/-- Goes on with what a call leaves, unless the call fails. -/
def attempt (stage : Stage) (r : Result × σ) (next : σ → Except Failure Unit × σ) :
    Except Failure Unit × σ :=
  if r.1 ≠ 0 then (.error (.call stage r.1), r.2) else next r.2

/-- The placeholder of a content is made anew and written. -/
def fillPlaceHolder (nca : NcaEntry) (placeholderId : PlaceHolderId) (s : σ) :
    Except Failure Unit × σ :=
  attempt .createPlaceHolder (sd.createPlaceHolder (contentIdOf nca.hash) placeholderId
      nca.data.length (sd.deletePlaceHolder placeholderId s)) fun s =>
    attempt .writePlaceHolder (sd.writePlaceHolder placeholderId 0 nca.data s) fun s => (.ok (), s)

/-- An old content of the id is deleted first. -/
def replaceContent (contentId : ContentId) (placeholderId : PlaceHolderId) (s : σ) :
    Except Failure Unit × σ :=
  attempt .register (sd.register contentId placeholderId (sd.delete contentId s)) fun s =>
    (.ok (), s)

/-- The body of the loop over the contents. -/
def registerNca (nca : NcaEntry) (s : σ) : Except Failure Unit × σ :=
  match sd.generatePlaceHolderId s with
  | (.error rc, s) => (.error (.call .generatePlaceHolderId rc), s)
  | (.ok placeholderId, s) =>
    match fillPlaceHolder sd nca placeholderId s with
    | (.error failure, s) => (.error failure, s)
    | (.ok _, s) => replaceContent sd (contentIdOf nca.hash) placeholderId s

def registerAll : List NcaEntry → σ → Except Failure Unit × σ
  | [], s => (.ok (), s)
  | nca :: ncas, s =>
    match registerNca sd nca s with
    | (.error failure, s) => (.error failure, s)
    | (.ok _, s) => registerAll ncas s

/-- `Set` and `Commit`, on an open database. -/
def storeMetaData (metaEntry : NcaMetaEntry) (s : σ) : Except Failure Unit × σ :=
  attempt .databaseSet
    (sd.databaseSet metaEntry.contentMetaKey metaEntry.contentMetaData s) fun s =>
      attempt .databaseCommit (sd.databaseCommit s) fun s => (.ok (), s)

def pushApplicationRecord (a : Answers) (tid : UInt64) (record : ContentStorageRecord)
    (w : World σ) : Result × World σ :=
  if a.recordManager ≠ 0 then (a.recordManager, w)
  else
    let w := w.opened .applicationManager
    let w := if a.pushRecord = 0 then { w with records := w.records ++ [(tid, record)] } else w
    (a.pushRecord, w.closed [.applicationManager])

def invalidateApplicationControlCache (a : Answers) (w : World σ) : Result × World σ :=
  if a.cacheManager ≠ 0 then (a.cacheManager, w)
  else (a.invalidateCache, (w.opened .applicationManager).closed [.applicationManager])

/-- The services that every exit behind `nsInitialize` closes. -/
def allServices : List Service := [.ns, .ncm, .splCrypto]

/-- From the application records on. -/
def announce (x : Request) (a : Answers) (metaEntry : NcaMetaEntry) (w : World σ) :
    Except Failure Unit × World σ :=
  let w := { w with card := sd.deleteApplicationCompletely (oldTitleId sha256 x) w.card }
  let w := { w with card := sd.deleteApplicationEntity (titleId sha256 x) w.card }
  let (rc, w) := pushApplicationRecord a (titleId sha256 x) metaEntry.contentStorageRecord w
  if rc ≠ 0 then (.error (.call .pushApplicationRecord rc), w.closed allServices)
  else
    let (rc, w) := invalidateApplicationControlCache a w
    if rc ≠ 0 then
      (.error (.call .invalidateApplicationControlCache rc), w.closed allServices)
    else (.ok (), w.closed allServices)

/-- From the meta database on. -/
def installMetaData (x : Request) (a : Answers) (metaEntry : NcaMetaEntry) (w : World σ) :
    Except Failure Unit × World σ :=
  if a.openContentMetaDatabase ≠ 0 then
    (.error (.call .openContentMetaDatabase a.openContentMetaDatabase), w.closed allServices)
  else
    let w := { w.opened .metaDatabase with card := sd.openDatabase w.card }
    match storeMetaData sd metaEntry w.card with
    | (.error failure, s) =>
      (.error failure, ({ w with card := s }.closed [.metaDatabase]).closed allServices)
    | (.ok _, s) => announce sha256 sd x a metaEntry ({ w with card := s }.closed [.metaDatabase])

/-- From the content storage on. -/
def installContents (x : Request) (a : Answers) (w : World σ) : Except Failure Unit × World σ :=
  match metaNca sha256 encryptNcaHeader x with
  -- never so: a meta NCA is made for all contents
  | none => (.error (.call .createMetaNca 0), w.closed allServices)
  | some metaEntry =>
    if a.openContentStorage ≠ 0 then
      (.error (.call .openContentStorage a.openContentStorage), w.closed allServices)
    else
      let w := w.opened .contentStorage
      match registerAll sd (contents sha256 x metaEntry) w.card with
      | (.error failure, s) =>
        (.error failure, ({ w with card := s }.closed [.contentStorage]).closed allServices)
      | (.ok _, s) =>
        installMetaData sha256 sd x a metaEntry ({ w with card := s }.closed [.contentStorage])

def installForwarder (x : Request) (a : Answers) (w : World σ) : Except Failure Unit × World σ :=
  if formatNroPathForForwarder x.launchPath = [] then (.error .badInput, w)
  else if x.icon = [] then (.error .notFound, w)
  else if x.mainNso = [] ∨ x.mainNpdm = [] then (.error .notFound, w)
  else if a.splCryptoInitialize ≠ 0 then
    (.error (.call .splCryptoInitialize a.splCryptoInitialize), w)
  else
    let w := w.opened .splCrypto
    if a.deriveHeaderKey ≠ 0 then
      (.error (.call .deriveHeaderKey a.deriveHeaderKey), w.closed [.splCrypto])
    else if a.ncmInitialize ≠ 0 then
      (.error (.call .ncmInitialize a.ncmInitialize), w.closed [.splCrypto])
    else
      let w := w.opened .ncm
      if a.nsInitialize ≠ 0 then
        (.error (.call .nsInitialize a.nsInitialize), w.closed [.ncm, .splCrypto])
      else installContents sha256 encryptNcaHeader sd x a (w.opened .ns)

/-! ## Services -/

/-- The services that are open, the latest first. -/
def Holds (w : World σ) (stack : List Service) : Prop := held w.calls = some stack

variable {sha256} {encryptNcaHeader} {sd} {w : World σ} {s t : σ} {x : Request} {a : Answers}
  {metaEntry : NcaMetaEntry} {stack : List Service}

lemma Holds.opened (h : Holds w stack) (service : Service) :
    Holds (w.opened service) (service :: stack) := by
  rw [Holds, World.opened, held_append h]
  rfl

lemma Holds.closed (services : List Service) (h : Holds w (services ++ stack)) :
    Holds (w.closed services) stack := by
  rw [Holds, World.closed, held_append h]
  exact heldFrom_release_all services stack

lemma holds_pushApplicationRecord (tid : UInt64) (record : ContentStorageRecord)
    (h : Holds w stack) : Holds (pushApplicationRecord a tid record w).2 stack := by
  have hopened := h.opened .applicationManager
  unfold pushApplicationRecord
  split_ifs
  · exact h
  · exact Holds.closed [.applicationManager] hopened
  · exact Holds.closed [.applicationManager] hopened

lemma holds_invalidate (h : Holds w stack) :
    Holds (invalidateApplicationControlCache a w).2 stack := by
  unfold invalidateApplicationControlCache
  split_ifs
  · exact h
  · exact Holds.closed [.applicationManager] (h.opened .applicationManager)

lemma holds_announce (h : Holds w allServices) :
    Holds (announce sha256 sd x a metaEntry w).2 [] := by
  have hcleaned (card : σ) : Holds { w with card := card } allServices := h
  have hpushed := @holds_pushApplicationRecord _ _ a _ (titleId sha256 x)
    metaEntry.contentStorageRecord (hcleaned (sd.deleteApplicationEntity (titleId sha256 x)
      (sd.deleteApplicationCompletely (oldTitleId sha256 x) w.card)))
  unfold announce
  dsimp only
  split_ifs
  · exact Holds.closed allServices hpushed
  · exact Holds.closed allServices (holds_invalidate hpushed)
  · exact Holds.closed allServices (holds_invalidate hpushed)

lemma holds_installMetaData (h : Holds w allServices) :
    Holds (installMetaData sha256 sd x a metaEntry w).2 [] := by
  have hopened : ∀ s : σ, Holds { w.opened .metaDatabase with card := s }
      (.metaDatabase :: allServices) := fun _ => h.opened .metaDatabase
  unfold installMetaData
  by_cases hdatabase : a.openContentMetaDatabase ≠ 0
  · rw [if_pos hdatabase]
    exact Holds.closed allServices h
  · rw [if_neg hdatabase]
    dsimp only
    rcases storeMetaData sd metaEntry (sd.openDatabase w.card) with ⟨failure | _, s⟩
    · exact Holds.closed allServices (Holds.closed [.metaDatabase] (hopened s))
    · exact holds_announce (Holds.closed [.metaDatabase] (hopened s))

lemma holds_installContents (h : Holds w allServices) :
    Holds (installContents sha256 encryptNcaHeader sd x a w).2 [] := by
  have hopened : ∀ s : σ, Holds { w.opened .contentStorage with card := s }
      (.contentStorage :: allServices) := fun _ => h.opened .contentStorage
  unfold installContents
  rcases metaNca sha256 encryptNcaHeader x with _ | metaEntry
  · exact Holds.closed allServices h
  dsimp only
  by_cases hstorage : a.openContentStorage ≠ 0
  · rw [if_pos hstorage]
    exact Holds.closed allServices h
  · rw [if_neg hstorage]
    rcases registerAll sd (contents sha256 x metaEntry) (w.opened .contentStorage).card with
      ⟨failure | _, s⟩
    · exact Holds.closed allServices (Holds.closed [.contentStorage] (hopened s))
    · exact holds_installMetaData (Holds.closed [.contentStorage] (hopened s))

lemma holds_installForwarder (h : Holds w []) :
    Holds (installForwarder sha256 encryptNcaHeader sd x a w).2 [] := by
  have hcrypto := h.opened .splCrypto
  have hncm := hcrypto.opened .ncm
  unfold installForwarder
  dsimp only
  split_ifs
  · exact h
  · exact h
  · exact h
  · exact h
  · exact Holds.closed [.splCrypto] hcrypto
  · exact Holds.closed [.splCrypto] hcrypto
  · exact Holds.closed [.ncm, .splCrypto] hncm
  · exact holds_installContents (hncm.opened .ns)

/-- The world after some installations, one after the other. -/
def install (sha256 : Bytes → Hash) (encryptNcaHeader : Bytes → Bytes) (sd : Card σ)
    (w : World σ) (attempt : Request × Answers) : World σ :=
  (installForwarder sha256 encryptNcaHeader sd attempt.1 attempt.2 w).2

/-- **Every installation gives all services back**, in reverse order and wherever it fails. -/
theorem installations_close_services (sha256 : Bytes → Hash) (encryptNcaHeader : Bytes → Bytes)
    (sd : Card σ) (card : σ) (attempts : List (Request × Answers)) (service : Service) :
    let calls := (attempts.foldl (install sha256 encryptNcaHeader sd) { card := card }).calls
    held calls = some [] ∧ calls.count (.acquired service) = calls.count (.released service) := by
  intro calls
  have hstep (w : World σ) (attempt : Request × Answers) (h : Holds w []) :
      Holds (install sha256 encryptNcaHeader sd w attempt) [] := holds_installForwarder h
  have hheld : held calls = some [] := foldl_invariant hstep attempts rfl
  exact ⟨hheld, count_eq_of_held hheld List.not_mem_nil⟩

/-! ## What the calls do to the card -/

/-- Nothing that is installed differs. -/
def Unseen (sd : Card σ) (s t : σ) : Prop :=
  sd.registered t = sd.registered s ∧ sd.listed t = sd.listed s

/-- Applications are deleted as a whole: an entry that is left keeps its contents. -/
def Trimmed (sd : Card σ) (s t : σ) : Prop :=
  ∀ key data, sd.listed t key = some data → sd.listed s key = some data ∧
    ∀ i, sd.registered t (data.infos i).contentId = sd.registered s (data.infos i).contentId

/-- What the code relies on.  Placeholders are no contents, a content is what was written into
its placeholder, and the database is stored by a commit or left as it was. -/
structure Card.Lawful (sd : Card σ) : Prop where
  generate s : Unseen sd s (sd.generatePlaceHolderId s).2
  deletePlaceHolder p s : Unseen sd s (sd.deletePlaceHolder p s)
  create c p n s : Unseen sd s (sd.createPlaceHolder c p n s).2
  created c p n s : (sd.createPlaceHolder c p n s).1 = 0 →
    sd.placeholder (sd.createPlaceHolder c p n s).2 p = some (zeros n)
  write p n b s : Unseen sd s (sd.writePlaceHolder p n b s).2
  written p n b s held : (sd.writePlaceHolder p n b s).1 = 0 → sd.placeholder s p = some held →
    sd.placeholder (sd.writePlaceHolder p n b s).2 p = some (overwrite held n b)
  delete c s : sd.listed (sd.delete c s) = sd.listed s ∧
    sd.placeholder (sd.delete c s) = sd.placeholder s ∧
    ∀ other ≠ c, sd.registered (sd.delete c s) other = sd.registered s other
  register c p s : sd.listed (sd.register c p s).2 = sd.listed s ∧
    ∀ other ≠ c, sd.registered (sd.register c p s).2 other = sd.registered s other
  registered c p s : (sd.register c p s).1 = 0 →
    sd.registered (sd.register c p s).2 c = sd.placeholder s p
  openDatabase s : Unseen sd s (sd.openDatabase s) ∧
    sd.pending (sd.openDatabase s) = sd.listed s
  set key data s : Unseen sd s (sd.databaseSet key data s).2 ∧
    ((sd.databaseSet key data s).1 = 0 → sd.pending (sd.databaseSet key data s).2 =
      Function.update (sd.pending s) key (some data))
  commit s : sd.registered (sd.databaseCommit s).2 = sd.registered s ∧
    sd.listed (sd.databaseCommit s).2 =
      if (sd.databaseCommit s).1 = 0 then sd.pending s else sd.listed s
  deleteCompletely id s : Trimmed sd s (sd.deleteApplicationCompletely id s)
  deleteEntity id s : Trimmed sd s (sd.deleteApplicationEntity id s)

/-- From one state to another, only these contents were registered, and no entry has changed. -/
structure Renewed (sd : Card σ) (ncas : List NcaEntry) (s t : σ) : Prop where
  listed : sd.listed t = sd.listed s
  registered c : sd.registered t c = sd.registered s c ∨
    ∃ nca ∈ ncas, contentIdOf nca.hash = c ∧ sd.registered t c = some nca.data

/-- Each id is that of a content of the list which is registered. -/
def Complete (sd : Card σ) (ncas : List NcaEntry) (t : σ) : Prop :=
  ∀ nca ∈ ncas, ∃ other ∈ ncas, contentIdOf other.hash = contentIdOf nca.hash ∧
    sd.registered t (contentIdOf nca.hash) = some other.data

/-- The call that deletes a content and puts the new one in its place. -/
def LosesContent : Except Failure Unit → Prop
  | .error (.call .register _) => True
  | _ => False

variable {ncas more : List NcaEntry} {nca : NcaEntry} {u : σ}

lemma Unseen.renewed (h : Unseen sd s t) : Renewed sd ncas s t :=
  ⟨h.2, fun c => .inl (congrFun h.1 c)⟩

lemma Unseen.trans (h : Unseen sd s u) (h' : Unseen sd u t) : Unseen sd s t :=
  ⟨h'.1.trans h.1, h'.2.trans h.2⟩

lemma Renewed.trans (h : Renewed sd ncas s u) (h' : Renewed sd more u t) :
    Renewed sd (ncas ++ more) s t := by
  refine ⟨h'.listed.trans h.listed, fun c => ?_⟩
  rcases h'.registered c with hsame | ⟨nca, hmem, hid, hdata⟩
  · rw [hsame]
    rcases h.registered c with hold | ⟨nca, hmem, hid, hdata⟩
    · exact .inl hold
    · exact .inr ⟨nca, List.mem_append_left _ hmem, hid, hdata⟩
  · exact .inr ⟨nca, List.mem_append_right _ hmem, hid, hdata⟩

lemma attempt_spec {P : Except Failure Unit × σ → Prop} {stage : Stage} {r : Result × σ}
    {next : σ → Except Failure Unit × σ} (hfailed : r.1 ≠ 0 → P (.error (.call stage r.1), r.2))
    (hnext : r.1 = 0 → P (next r.2)) : P (attempt stage r next) := by
  unfold attempt
  by_cases hrc : r.1 ≠ 0
  · rw [if_pos hrc]
    exact hfailed hrc
  · rw [if_neg hrc]
    exact hnext (not_not.mp hrc)

/-- How the placeholder of a content is made. -/
def Filled (sd : Card σ) (nca : NcaEntry) (p : PlaceHolderId) (s : σ)
    (r : Except Failure Unit × σ) : Prop :=
  Unseen sd s r.2 ∧ (r.1 = .ok () → sd.placeholder r.2 p = some nca.data)

lemma fillPlaceHolder_spec (hsd : sd.Lawful) (nca : NcaEntry) (p : PlaceHolderId) (s : σ) :
    Filled sd nca p s (fillPlaceHolder sd nca p s) := by
  have hcreate := (hsd.deletePlaceHolder p s).trans
    (hsd.create (contentIdOf nca.hash) p nca.data.length (sd.deletePlaceHolder p s))
  refine attempt_spec (fun _ => ⟨hcreate, fun hok => nomatch hok⟩) fun hcreated => ?_
  have hplaced := hsd.created _ _ _ _ hcreated
  generalize (sd.createPlaceHolder _ p _ _).2 = u at *
  have hwrite := hcreate.trans (hsd.write p 0 nca.data u)
  refine attempt_spec (fun _ => ⟨hwrite, fun hok => nomatch hok⟩) fun hwritten => ?_
  have hall : overwrite (zeros nca.data.length ++ []) 0 nca.data = nca.data ++ [] :=
    overwrite_front (length_zeros _)
  rw [List.append_nil, List.append_nil] at hall
  refine ⟨hwrite, fun _ => ?_⟩
  rw [hsd.written _ _ _ _ _ hwritten hplaced, hall]

/-- Replacing a content touches no other, and puts the placeholder in its place on success. -/
def Replaced (sd : Card σ) (c : ContentId) (p : PlaceHolderId) (s : σ)
    (r : Except Failure Unit × σ) : Prop :=
  sd.listed r.2 = sd.listed s ∧
    (∀ other ≠ c, sd.registered r.2 other = sd.registered s other) ∧
    (r.1 = .ok () → sd.registered r.2 c = sd.placeholder s p) ∧
    (r.1 = .ok () ∨ LosesContent r.1)

lemma replaceContent_spec (hsd : sd.Lawful) (c : ContentId) (p : PlaceHolderId) (s : σ) :
    Replaced sd c p s (replaceContent sd c p s) := by
  obtain ⟨hlisted, hplaceholder, hothers⟩ := hsd.delete c s
  obtain ⟨hlisted', hothers'⟩ := hsd.register c p (sd.delete c s)
  have hkept (other : ContentId) (hne : other ≠ c) :=
    (hothers' other hne).trans (hothers other hne)
  refine attempt_spec (fun _ => ?_) fun hregistered => ?_
  · exact ⟨hlisted'.trans hlisted, hkept, (fun hok => nomatch hok), .inr trivial⟩
  · refine ⟨hlisted'.trans hlisted, hkept, fun _ => ?_, .inl rfl⟩
    rw [hsd.registered _ _ _ hregistered, hplaceholder]

/-- One content: replaced on success, and untouched unless its registration fails. -/
lemma registerNca_renewed (hsd : sd.Lawful) (nca : NcaEntry) (s : σ) :
    (¬LosesContent (registerNca sd nca s).1 → Renewed sd [nca] s (registerNca sd nca s).2) ∧
      ((registerNca sd nca s).1 = .ok () → sd.registered (registerNca sd nca s).2
        (contentIdOf nca.hash) = some nca.data) := by
  have hgenerate := hsd.generate s
  unfold registerNca
  generalize sd.generatePlaceHolderId s = r at *
  obtain ⟨rc | p, u⟩ := r
  · exact ⟨fun _ => hgenerate.renewed, fun hok => nomatch hok⟩
  dsimp only at *
  obtain ⟨hfill, hfilled⟩ := fillPlaceHolder_spec hsd nca p u
  generalize fillPlaceHolder sd nca p u = r at *
  obtain ⟨failure | _, v⟩ := r
  · exact ⟨fun _ => (hgenerate.trans hfill).renewed, fun hok => nomatch hok⟩
  dsimp only at *
  have hunseen := hgenerate.trans hfill
  obtain ⟨hlisted, hothers, hregistered, hends⟩ :=
    replaceContent_spec hsd (contentIdOf nca.hash) p v
  generalize replaceContent sd (contentIdOf nca.hash) p v = r at *
  have hnew (hok : r.1 = .ok ()) : sd.registered r.2 (contentIdOf nca.hash) = some nca.data :=
    (hregistered hok).trans (hfilled rfl)
  refine ⟨fun hkept => ⟨hlisted.trans hunseen.2, fun c => ?_⟩, hnew⟩
  by_cases hc : contentIdOf nca.hash = c
  · exact .inr ⟨nca, List.mem_singleton_self nca, hc, hc ▸ hnew (hends.resolve_right hkept)⟩
  · exact .inl ((hothers c (Ne.symm hc)).trans (congrFun hunseen.1 c))

/-- The loop: what was registered before, unless a later content has the same id. -/
lemma registerAll_renewed (hsd : sd.Lawful) (ncas : List NcaEntry) (s : σ) :
    (¬LosesContent (registerAll sd ncas s).1 → Renewed sd ncas s (registerAll sd ncas s).2) ∧
      ((registerAll sd ncas s).1 = .ok () → Complete sd ncas (registerAll sd ncas s).2) := by
  induction ncas generalizing s with
  | nil => exact ⟨fun _ => ⟨rfl, fun _ => .inl rfl⟩, fun _ _ hmem => nomatch hmem⟩
  | cons nca ncas ih =>
    obtain ⟨hone, hnew⟩ := registerNca_renewed hsd nca s
    unfold registerAll
    generalize registerNca sd nca s = r at *
    obtain ⟨failure | _, u⟩ := r
    · refine ⟨fun hkept => ?_, fun hok => nomatch hok⟩
      have hrenewed := (hone hkept).trans (⟨rfl, fun _ => .inl rfl⟩ : Renewed sd ncas u u)
      exact hrenewed
    · dsimp only at *
      have hfirst := hone id
      obtain ⟨hrest, hcomplete⟩ := ih u
      refine ⟨fun hkept => hfirst.trans (hrest hkept), fun hok => ?_⟩
      have hkept : ¬LosesContent (registerAll sd ncas u).1 := by
        rw [hok]
        exact id
      have htail := hcomplete hok
      intro other hmem
      rcases List.mem_cons.mp hmem with rfl | hmem
      · have hthen := (hrest hkept).registered (contentIdOf other.hash)
        rcases hthen with hsame | ⟨later, hlater, hid, hdata⟩
        · exact ⟨other, List.mem_cons_self, rfl, hsame.trans (hnew rfl)⟩
        · exact ⟨later, List.mem_cons_of_mem _ hlater, hid, hdata⟩
      · obtain ⟨found, hfound, hid, hdata⟩ := htail other hmem
        exact ⟨found, List.mem_cons_of_mem _ hfound, hid, hdata⟩

/-- How the database is written: not at all, or with the entry. -/
def Stored (sd : Card σ) (metaEntry : NcaMetaEntry) (s : σ) (r : Except Failure Unit × σ) : Prop :=
  sd.registered r.2 = sd.registered s ∧
    match r.1 with
    | .ok _ => sd.listed r.2 = Function.update (sd.listed s) metaEntry.contentMetaKey
        (some metaEntry.contentMetaData)
    | .error _ => sd.listed r.2 = sd.listed s

lemma storeMetaData_spec (hsd : sd.Lawful) (metaEntry : NcaMetaEntry) (s : σ)
    (hpending : sd.pending s = sd.listed s) :
    Stored sd metaEntry s (storeMetaData sd metaEntry s) := by
  obtain ⟨hset, hstaged⟩ := hsd.set metaEntry.contentMetaKey metaEntry.contentMetaData s
  refine attempt_spec (fun _ => ⟨hset.1, hset.2⟩) fun hrc => ?_
  have hpending' := hstaged hrc
  generalize (sd.databaseSet _ _ s).2 = u at *
  obtain ⟨hregistered, hlisted⟩ := hsd.commit u
  refine attempt_spec (fun hfailed => ?_) fun hcommitted => ?_
  · rw [if_neg hfailed] at hlisted
    exact ⟨hregistered.trans hset.1, hlisted.trans hset.2⟩
  · rw [if_pos hcommitted, hpending', hpending] at hlisted
    exact ⟨hregistered.trans hset.1, hlisted⟩

/-! ## How an installation ends -/

/-- The contents that the request makes. -/
def made (sha256 : Bytes → Hash) (encryptNcaHeader : Bytes → Bytes) (x : Request) :
    List NcaEntry :=
  (metaNca sha256 encryptNcaHeader x).toList.flatMap (contents sha256 x)

lemma made_eq (hmeta : metaNca sha256 encryptNcaHeader x = some metaEntry) :
    made sha256 encryptNcaHeader x = contents sha256 x metaEntry := by
  have hflat : (some metaEntry).toList.flatMap (contents sha256 x) = contents sha256 x metaEntry :=
    List.flatMap_singleton _ _
  rw [made, hmeta, hflat]

/-- The card with the three contents and the entry that lists them. -/
structure Committed (sd : Card σ) (ncas : List NcaEntry) (metaEntry : NcaMetaEntry) (s u : σ) :
    Prop where
  registered c : sd.registered u c = sd.registered s c ∨
    ∃ nca ∈ ncas, contentIdOf nca.hash = c ∧ sd.registered u c = some nca.data
  complete : Complete sd ncas u
  listed : sd.listed u = Function.update (sd.listed s) metaEntry.contentMetaKey
    (some metaEntry.contentMetaData)

/-- Nothing is entered and no record is pushed, or everything is there by the time of the entry.
A record is pushed only after that. -/
def Ends (sha256 : Bytes → Hash) (encryptNcaHeader : Bytes → Bytes) (sd : Card σ) (x : Request)
    (w : World σ) (r : Except Failure Unit × World σ) : Prop :=
  (r.1 ≠ .ok () ∧ r.2.records = w.records ∧
    (¬LosesContent r.1 → Renewed sd (made sha256 encryptNcaHeader x) w.card r.2.card)) ∨
  ∃ metaEntry u, metaNca sha256 encryptNcaHeader x = some metaEntry ∧
    Committed sd (contents sha256 x metaEntry) metaEntry w.card u ∧
    r.2.card = sd.deleteApplicationEntity (titleId sha256 x)
      (sd.deleteApplicationCompletely (oldTitleId sha256 x) u) ∧
    (r.2.records = w.records ++ [(titleId sha256 x, metaEntry.contentStorageRecord)] ∨
      r.1 ≠ .ok () ∧ r.2.records = w.records)

lemma ends_untouched {failure : Failure} {v : World σ} (hcard : v.card = w.card)
    (hrecords : v.records = w.records) :
    Ends sha256 encryptNcaHeader sd x w (.error failure, v) := by
  refine .inl ⟨nofun, hrecords, fun _ => ?_⟩
  dsimp only
  rw [hcard]
  exact ⟨rfl, fun _ => .inl rfl⟩

lemma announce_spec (x : Request) (a : Answers) (metaEntry : NcaMetaEntry) (w : World σ) :
    (announce sha256 sd x a metaEntry w).2.card =
        sd.deleteApplicationEntity (titleId sha256 x)
          (sd.deleteApplicationCompletely (oldTitleId sha256 x) w.card) ∧
      ((announce sha256 sd x a metaEntry w).2.records =
          w.records ++ [(titleId sha256 x, metaEntry.contentStorageRecord)] ∨
        (announce sha256 sd x a metaEntry w).1 ≠ .ok () ∧
          (announce sha256 sd x a metaEntry w).2.records = w.records) := by
  by_cases hmanager : a.recordManager = 0
  · by_cases hpush : a.pushRecord = 0
    · by_cases hcache : a.cacheManager = 0 <;> by_cases hinvalid : a.invalidateCache = 0 <;>
        simp [announce, pushApplicationRecord, invalidateApplicationControlCache, hmanager, hpush,
          hcache, hinvalid, World.opened, World.closed]
    · simp [announce, pushApplicationRecord, hmanager, hpush, World.opened, World.closed]
  · simp [announce, pushApplicationRecord, hmanager, World.closed]

lemma ends_installMetaData (hsd : sd.Lawful) {v : World σ}
    (hmeta : metaNca sha256 encryptNcaHeader x = some metaEntry)
    (hrecords : v.records = w.records)
    (hrenewed : Renewed sd (contents sha256 x metaEntry) w.card v.card)
    (hcomplete : Complete sd (contents sha256 x metaEntry) v.card) :
    Ends sha256 encryptNcaHeader sd x w (installMetaData sha256 sd x a metaEntry v) := by
  have hmade := made_eq hmeta
  obtain ⟨hopened, hpending⟩ := hsd.openDatabase v.card
  unfold installMetaData
  by_cases hdatabase : a.openContentMetaDatabase ≠ 0
  · rw [if_pos hdatabase]
    rw [← hmade] at hrenewed
    exact .inl ⟨nofun, hrecords, fun _ => hrenewed⟩
  rw [if_neg hdatabase]
  have hstored := storeMetaData_spec hsd metaEntry _ (hpending.trans hopened.2.symm)
  dsimp only
  generalize storeMetaData sd metaEntry (sd.openDatabase v.card) = r at *
  obtain ⟨failure | _, u⟩ := r
  · have hlisted : sd.listed u = sd.listed v.card := hstored.2.trans hopened.2
    have hregistered : sd.registered u = sd.registered v.card := hstored.1.trans hopened.1
    have hkept : Renewed sd (contents sha256 x metaEntry) w.card u := by
      refine ⟨hlisted.trans hrenewed.listed, fun c => ?_⟩
      rw [hregistered]
      exact hrenewed.registered c
    rw [← hmade] at hkept
    exact .inl ⟨nofun, hrecords, fun _ => hkept⟩
  · have hregistered : sd.registered u = sd.registered v.card := hstored.1.trans hopened.1
    have hlisted : sd.listed u = Function.update (sd.listed w.card) metaEntry.contentMetaKey
        (some metaEntry.contentMetaData) := by
      rw [← hrenewed.listed, ← hopened.2]
      exact hstored.2
    have hcommitted : Committed sd (contents sha256 x metaEntry) metaEntry w.card u := by
      refine ⟨?_, ?_, hlisted⟩
      · rw [hregistered]
        exact hrenewed.registered
      · unfold Complete
        rw [hregistered]
        exact hcomplete
    obtain ⟨hcard, hpushed⟩ := @announce_spec sha256 _ sd x a metaEntry
      (World.closed { v.opened .metaDatabase with card := u } [.metaDatabase])
    refine .inr ⟨metaEntry, u, hmeta, hcommitted, hcard, ?_⟩
    rw [← hrecords]
    exact hpushed

lemma ends_installContents (hsd : sd.Lawful) {v : World σ} (hcard : v.card = w.card)
    (hrecords : v.records = w.records) :
    Ends sha256 encryptNcaHeader sd x w
      (installContents sha256 encryptNcaHeader sd x a v) := by
  unfold installContents
  cases hmeta : metaNca sha256 encryptNcaHeader x with
  | none => exact ends_untouched hcard hrecords
  | some metaEntry =>
    have hmade := made_eq hmeta
    dsimp only
    by_cases hstorage : a.openContentStorage ≠ 0
    · rw [if_pos hstorage]
      exact ends_untouched hcard hrecords
    rw [if_neg hstorage]
    obtain ⟨hrenewed, hcomplete⟩ := registerAll_renewed hsd (contents sha256 x metaEntry) w.card
    have hopened : (v.opened .contentStorage).card = w.card := hcard
    rw [hopened]
    generalize registerAll sd (contents sha256 x metaEntry) w.card = r at *
    obtain ⟨failure | _, u⟩ := r
    · rw [← hmade] at hrenewed
      exact .inl ⟨nofun, hrecords, hrenewed⟩
    · exact ends_installMetaData hsd hmeta hrecords (hrenewed id) (hcomplete rfl)

lemma ends_installForwarder (hsd : sd.Lawful) (x : Request) (a : Answers) (w : World σ) :
    Ends sha256 encryptNcaHeader sd x w (installForwarder sha256 encryptNcaHeader sd x a w) := by
  unfold installForwarder
  dsimp only
  split_ifs
  · exact ends_untouched rfl rfl
  · exact ends_untouched rfl rfl
  · exact ends_untouched rfl rfl
  · exact ends_untouched rfl rfl
  · exact ends_untouched rfl rfl
  · exact ends_untouched rfl rfl
  · exact ends_untouched rfl rfl
  · exact ends_installContents hsd rfl rfl

/-! ## Entries and contents -/

/-- The content that a record names is registered, and its hash is its name. -/
def Backed (sha256 : Bytes → Hash) (sd : Card σ) (s : σ) (info : NcmContentInfo) : Prop :=
  ∃ data, sd.registered s info.contentId = some data ∧
    contentIdOf (sha256 data) = info.contentId

/-- Every entry of the database lists contents that are there. -/
def AllBacked (sha256 : Bytes → Hash) (sd : Card σ) (s : σ) : Prop :=
  ∀ key data, sd.listed s key = some data → ∀ i, Backed sha256 sd s (data.infos i)

/-- The NCAs come with their hashes. -/
def Hashed (sha256 : Bytes → Hash) (x : Request) : Prop :=
  ∀ i, (x.ncas (titleId sha256 x) i).hash = sha256 (x.ncas (titleId sha256 x) i).data

lemma metaNca_described (hmeta : metaNca sha256 encryptNcaHeader x = some metaEntry) :
    Described sha256 (titleId sha256 x) NcmStorageId_SdCard (x.ncas (titleId sha256 x))
      metaEntry := by
  obtain ⟨entry, hentry, -, hdescribed⟩ := @createMetaNca_described sha256 encryptNcaHeader
    (titleId sha256 x) NcmStorageId_SdCard (x.ncas (titleId sha256 x))
  obtain rfl : entry = metaEntry := Option.some.inj (hentry.symm.trans hmeta)
  exact hdescribed

lemma contents_hashed (hx : Hashed sha256 x)
    (hmeta : metaNca sha256 encryptNcaHeader x = some metaEntry) :
    ∀ nca ∈ contents sha256 x metaEntry, nca.hash = sha256 nca.data := by
  intro nca hmem
  rcases List.mem_append.mp hmem with hmem | hmem
  · obtain ⟨i, rfl⟩ := List.mem_ofFn.mp hmem
    exact hx i
  · obtain rfl := List.mem_singleton.mp hmem
    exact (metaNca_described hmeta).hash

lemma made_hashed (hx : Hashed sha256 x) :
    ∀ nca ∈ made sha256 encryptNcaHeader x, nca.hash = sha256 nca.data := by
  intro nca hmem
  obtain ⟨metaEntry, hmeta, hmem⟩ := List.mem_flatMap.mp hmem
  exact contents_hashed hx (Option.mem_toList.mp hmeta) nca hmem

/-- The entry lists the three contents that are registered, and no other. -/
lemma infos_contents (hmeta : metaNca sha256 encryptNcaHeader x = some metaEntry) (i : Fin 3) :
    ∃ nca ∈ contents sha256 x metaEntry,
      contentIdOf nca.hash = (metaEntry.contentMetaData.infos i).contentId := by
  have hdescribed := metaNca_described hmeta
  refine Fin.cases ?_ (fun j => ?_) i
  · exact ⟨metaEntry.ncaEntry, List.mem_append_right _ (List.mem_singleton_self _),
      hdescribed.own.symm⟩
  · refine ⟨x.ncas (titleId sha256 x) j,
      List.mem_append_left _ (List.mem_ofFn.mpr ⟨j, rfl⟩), ?_⟩
    rw [hdescribed.others j]
    rfl

/-- What is registered anew has its hash for a name. -/
lemma backed_of_registered {info : NcmContentInfo}
    (hhashed : ∀ nca ∈ ncas, nca.hash = sha256 nca.data) (h : Backed sha256 sd s info)
    (hregistered : ∀ c, sd.registered t c = sd.registered s c ∨
      ∃ nca ∈ ncas, contentIdOf nca.hash = c ∧ sd.registered t c = some nca.data) :
    Backed sha256 sd t info := by
  obtain ⟨data, hdata, hid⟩ := h
  rcases hregistered info.contentId with hsame | ⟨nca, hmem, hname, hnew⟩
  · exact ⟨data, hsame.trans hdata, hid⟩
  · exact ⟨nca.data, hnew, by rw [← hhashed nca hmem, hname]⟩

lemma Committed.own (h : Committed sd (contents sha256 x metaEntry) metaEntry s u)
    (hx : Hashed sha256 x) (hmeta : metaNca sha256 encryptNcaHeader x = some metaEntry)
    (i : Fin 3) : Backed sha256 sd u (metaEntry.contentMetaData.infos i) := by
  obtain ⟨nca, hmem, hid⟩ := infos_contents hmeta i
  obtain ⟨other, hother, hsame, hdata⟩ := h.complete nca hmem
  rw [hid] at hsame hdata
  exact ⟨other.data, hdata, by rw [← contents_hashed hx hmeta other hother, hsame]⟩

lemma Committed.allBacked (h : Committed sd (contents sha256 x metaEntry) metaEntry s u)
    (hx : Hashed sha256 x) (hmeta : metaNca sha256 encryptNcaHeader x = some metaEntry)
    (hs : AllBacked sha256 sd s) : AllBacked sha256 sd u := by
  intro key data hdata i
  rw [h.listed] at hdata
  by_cases hkey : key = metaEntry.contentMetaKey
  · rw [hkey, Function.update_self] at hdata
    obtain rfl := Option.some.inj hdata
    exact h.own hx hmeta i
  · rw [Function.update_of_ne hkey] at hdata
    exact backed_of_registered (contents_hashed hx hmeta) (hs key data hdata i) h.registered

lemma Trimmed.trans (h : Trimmed sd s u) (h' : Trimmed sd u t) : Trimmed sd s t := by
  intro key data hdata
  obtain ⟨hlater, hsame⟩ := h' key data hdata
  obtain ⟨hlisted, hsame'⟩ := h key data hlater
  exact ⟨hlisted, fun i => (hsame i).trans (hsame' i)⟩

/-- An entry that is left has its contents, if it had them. -/
lemma Trimmed.backed (h : Trimmed sd s t) {key : NcmContentMetaKey}
    {data : ForwarderContentMetaData} (hdata : sd.listed t key = some data)
    (hs : ∀ i, Backed sha256 sd s (data.infos i)) (i : Fin 3) :
    Backed sha256 sd t (data.infos i) := by
  obtain ⟨found, hfound, hid⟩ := hs i
  exact ⟨found, ((h key data hdata).2 i).trans hfound, hid⟩

lemma Trimmed.allBacked (h : Trimmed sd s t) (hs : AllBacked sha256 sd s) :
    AllBacked sha256 sd t :=
  fun key data hdata => h.backed hdata (hs key data (h key data hdata).1)

/-- The step: one installation that loses no content. -/
lemma install_allBacked (hsd : sd.Lawful) (hx : Hashed sha256 x)
    (hkept : ¬LosesContent (installForwarder sha256 encryptNcaHeader sd x a w).1)
    (hw : AllBacked sha256 sd w.card) :
    AllBacked sha256 sd (installForwarder sha256 encryptNcaHeader sd x a w).2.card := by
  rcases @ends_installForwarder sha256 encryptNcaHeader _ sd hsd x a w with
    ⟨-, -, hrenewed⟩ | ⟨metaEntry, u, hmeta, hcommitted, hcard, -⟩
  · have hrenewed := hrenewed hkept
    intro key data hdata i
    rw [hrenewed.listed] at hdata
    exact backed_of_registered (made_hashed hx) (hw key data hdata i) hrenewed.registered
  · rw [hcard]
    exact (hsd.deleteEntity _ _).allBacked
      ((hsd.deleteCompletely _ _).allBacked (hcommitted.allBacked hx hmeta hw))

/-- **Over all installations whose `Register` calls succeed, every entry of the meta database lists
contents that are on the card**, under the names that their hashes give them. -/
theorem entries_stay_backed (hsd : sd.Lawful) {card : σ} (hcard : AllBacked sha256 sd card)
    {w : World σ}
    (hrun : Run (fun w attempt => some (install sha256 encryptNcaHeader sd w attempt))
      (fun w attempt => Hashed sha256 attempt.1 ∧
        ¬LosesContent (installForwarder sha256 encryptNcaHeader sd attempt.1 attempt.2 w).1)
      { card := card } w) : AllBacked sha256 sd w.card := by
  refine Run.invariant (I := fun v => AllBacked sha256 sd v.card) hcard ?_ hrun
  intro v attempt next hv hok hstep
  obtain rfl := Option.some.inj hstep
  exact install_allBacked hsd hok.1 hok.2 hv

/-- **A record is pushed only for an application that is installed**: the database got its entry,
and the three contents that the entry lists were on the card.  Applications are deleted between
that and the push, which takes the entry with its contents or leaves both. -/
theorem records_follow_contents (hsd : sd.Lawful) (hx : Hashed sha256 x) (a : Answers)
    (w : World σ) :
    let r := installForwarder sha256 encryptNcaHeader sd x a w
    (r.1 = .ok () → r.2.records ≠ w.records) ∧
      (r.2.records ≠ w.records → ∃ metaEntry u,
        metaNca sha256 encryptNcaHeader x = some metaEntry ∧
        r.2.records = w.records ++ [(titleId sha256 x, metaEntry.contentStorageRecord)] ∧
        sd.listed u metaEntry.contentMetaKey = some metaEntry.contentMetaData ∧
        (∀ i, Backed sha256 sd u (metaEntry.contentMetaData.infos i)) ∧
        r.2.card = sd.deleteApplicationEntity (titleId sha256 x)
          (sd.deleteApplicationCompletely (oldTitleId sha256 x) u) ∧
        ∀ data, sd.listed r.2.card metaEntry.contentMetaKey = some data →
          data = metaEntry.contentMetaData ∧
            ∀ i, Backed sha256 sd r.2.card (data.infos i)) := by
  intro r
  rcases @ends_installForwarder sha256 encryptNcaHeader _ sd hsd x a w with
    ⟨hfailed, hrecords, -⟩ | ⟨metaEntry, u, hmeta, hcommitted, hcard, hpushed⟩
  · exact ⟨fun hok => absurd hok hfailed, fun hne => absurd hrecords hne⟩
  · have hlisted : sd.listed u metaEntry.contentMetaKey = some metaEntry.contentMetaData := by
      rw [hcommitted.listed, Function.update_self]
    have hgrown : w.records ++ [(titleId sha256 x, metaEntry.contentStorageRecord)] ≠ w.records :=
      fun heq => absurd (congrArg List.length heq) (by simp)
    have htrimmed : Trimmed sd u r.2.card := by
      rw [hcard]
      exact (hsd.deleteCompletely _ u).trans (hsd.deleteEntity _ _)
    have hleft : ∀ data, sd.listed r.2.card metaEntry.contentMetaKey = some data →
        data = metaEntry.contentMetaData ∧ ∀ i, Backed sha256 sd r.2.card (data.infos i) := by
      intro data hdata
      obtain rfl : metaEntry.contentMetaData = data :=
        Option.some.inj (hlisted.symm.trans (htrimmed _ data hdata).1)
      exact ⟨rfl, htrimmed.backed hdata (hcommitted.own hx hmeta)⟩
    rcases hpushed with hpushed | ⟨hfailed, hsame⟩
    · refine ⟨fun _ => hpushed ▸ hgrown, fun _ => ?_⟩
      exact ⟨metaEntry, u, hmeta, hpushed, hlisted, hcommitted.own hx hmeta, hcard, hleft⟩
    · exact ⟨fun hok => absurd hok hfailed, fun hne => absurd hsame hne⟩

end

/-! ## A card in memory -/

structure Memory where
  contents : ContentId → Option Bytes := fun _ => none
  placeholders : PlaceHolderId → Option Bytes := fun _ => none
  pending : NcmContentMetaKey → Option ForwarderContentMetaData := fun _ => none
  listed : NcmContentMetaKey → Option ForwarderContentMetaData := fun _ => none

/-- Every call succeeds where what it needs is there. -/
def memoryCard : Card Memory where
  generatePlaceHolderId s := (.ok [1], s)
  deletePlaceHolder p s := { s with placeholders := Function.update s.placeholders p none }
  createPlaceHolder _ p n s :=
    (0, { s with placeholders := Function.update s.placeholders p (some (zeros n)) })
  writePlaceHolder p n b s :=
    match s.placeholders p with
    | none => (1, s)
    | some held =>
      (0, { s with placeholders := Function.update s.placeholders p (some (overwrite held n b)) })
  delete c s := { s with contents := Function.update s.contents c none }
  register c p s :=
    (0, { s with contents := Function.update s.contents c (s.placeholders p),
                 placeholders := Function.update s.placeholders p none })
  openDatabase s := { s with pending := s.listed }
  databaseSet key data s := (0, { s with pending := Function.update s.pending key (some data) })
  databaseCommit s := (0, { s with listed := s.pending })
  deleteApplicationCompletely id s :=
    { s with listed := fun key => if key.id = id then none else s.listed key }
  deleteApplicationEntity _ s := s
  placeholder s := s.placeholders
  registered s := s.contents
  pending s := s.pending
  listed s := s.listed

lemma memoryCard_lawful : memoryCard.Lawful where
  generate _ := ⟨rfl, rfl⟩
  deletePlaceHolder _ _ := ⟨rfl, rfl⟩
  create _ _ _ _ := ⟨rfl, rfl⟩
  created _ p _ s _ := Function.update_self p _ s.placeholders
  write p _ _ s := by
    simp only [memoryCard]
    cases s.placeholders p <;> exact ⟨rfl, rfl⟩
  written p n b s held _ hheld := by
    simp only [memoryCard] at hheld ⊢
    rw [hheld]
    exact Function.update_self p _ s.placeholders
  delete c s := ⟨rfl, rfl, fun _ hne => Function.update_of_ne hne _ s.contents⟩
  register c p s := ⟨rfl, fun _ hne => Function.update_of_ne hne _ s.contents⟩
  registered c p s _ := Function.update_self c _ s.contents
  openDatabase _ := ⟨⟨rfl, rfl⟩, rfl⟩
  set _ _ _ := ⟨⟨rfl, rfl⟩, fun _ => rfl⟩
  commit _ := ⟨rfl, rfl⟩
  deleteCompletely id s := by
    intro key data hdata
    simp only [memoryCard] at hdata ⊢
    split_ifs at hdata
    exact ⟨hdata, fun _ => trivial⟩
  deleteEntity _ _ := fun _ _ hdata => ⟨hdata, fun _ => rfl⟩

/-- A forwarder of two small contents. -/
def smallRequest : Request where
  launchPath := ascii "/switch/a.nro"
  host := { address := ascii "10.0.0.2", hostname := ascii "pc", mac := [] }
  app := { name := ascii "game", appId := 3 }
  icon := [1]
  mainNso := [1]
  mainNpdm := [1]
  ncas _ := someNcas

lemma smallRequest_hashed : Hashed noSha256 smallRequest := fun i => by fin_cases i <;> rfl

lemma smallRequest_installs :
    (installForwarder noSha256 masked memoryCard smallRequest {} { card := {} }).2.records.length =
      1 := by
  decide +kernel

theorem records_follow_contents_small : ∃ metaEntry u,
    metaNca noSha256 masked smallRequest = some metaEntry ∧
      memoryCard.listed u metaEntry.contentMetaKey = some metaEntry.contentMetaData ∧
      ∀ i, Backed noSha256 memoryCard u (metaEntry.contentMetaData.infos i) := by
  have hpushed : (installForwarder noSha256 masked memoryCard smallRequest {}
      { card := {} }).2.records ≠ [] := by
    intro hnil
    have hone := smallRequest_installs
    rw [hnil] at hone
    cases hone
  obtain ⟨metaEntry, u, hmeta, -, hlisted, hbacked, -, -⟩ :=
    (@records_follow_contents noSha256 masked _ memoryCard smallRequest memoryCard_lawful
      smallRequest_hashed {} { card := {} }).2 hpushed
  exact ⟨metaEntry, u, hmeta, hlisted, hbacked⟩

lemma not_losesContent_of_isOk {r : Except Failure Unit} (h : r.isOk = true) :
    ¬LosesContent r := by
  cases r with
  | error _ => cases h
  | ok _ => exact id

/-- The forwarder is installed twice. -/
theorem entries_stay_backed_twice : AllBacked noSha256 memoryCard
    (install noSha256 masked memoryCard (install noSha256 masked memoryCard { card := {} }
      (smallRequest, {})) (smallRequest, {})).card := by
  refine @entries_stay_backed noSha256 masked _ memoryCard memoryCard_lawful {}
    (fun key data hdata => nomatch hdata) _ ?_
  refine .snoc (.snoc .refl ⟨smallRequest_hashed, ?_⟩ rfl) ⟨smallRequest_hashed, ?_⟩ rfl
  · exact not_losesContent_of_isOk (by decide +kernel)
  · exact not_losesContent_of_isOk (by decide +kernel)

end ArtemisSwitch.Forwarder.Install
