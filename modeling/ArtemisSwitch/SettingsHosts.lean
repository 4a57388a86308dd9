import ArtemisSwitch.HostRecord

/-!
# The host list of Settings

A host that comes in joins the first entry it matches.
-/

namespace ArtemisSwitch.HostStore

/-- Applies `f` to the first entry that `p` finds. -/
def updateFirst (p : Host → Bool) (f : Host → Host) : List Host → Option (List Host)
  | [] => none
  | h :: hosts => if p h then some (f h :: hosts) else (updateFirst p f hosts).map (h :: ·)

def mergeFavorite (favorites : List App) (app : App) : List App :=
  if favorites.any fun favorite => favorite.appId = app.appId then favorites
  else favorites ++ [app]

/-- The fields of the source that are not empty replace those of the target, and so does a
usable MAC. -/
def overwriteFields (target source : Host) : Host :=
  { target with
    address := if source.address ≠ [] then source.address else target.address
    remoteAddress :=
      if source.remoteAddress ≠ [] then source.remoteAddress else target.remoteAddress
    hostname := if source.hostname ≠ [] then source.hostname else target.hostname
    mac := if isUsableMac source.mac then source.mac else target.mac }

def mergeHost (target source : Host) : Host :=
  let target := overwriteFields target source
  let target :=
    if source.endpoints ≠ [] then
      source.endpoints.foldl
        (fun t endpoint => t.addEndpoint endpoint.label endpoint.address) target
    else target.ensureEndpoints
  { target with favorites := source.favorites.foldl mergeFavorite target.favorites }

/-- What `add_host` and `load` do with the entry that `find_host_for_upsert` returns. -/
def upsertHost (hosts : List Host) (incoming : Host) : Option (List Host) :=
  updateFirst (hostsMatchForUpsert · incoming)
    (fun existing => (mergeHost existing incoming).ensureEndpoints) hosts

def addHost (hosts : List Host) (host : Host) : List Host :=
  let incoming := host.ensureEndpoints
  match upsertHost hosts incoming with
  | some hosts => hosts
  | none => if incoming.preferredAddress ≠ [] then hosts ++ [incoming] else hosts

/-- One record of the file; `true` when it was merged into an earlier one. -/
def loadHost (hosts : List Host) (host : Host) : List Host × Bool :=
  match upsertHost hosts host with
  | some hosts => (hosts, true)
  | none => (hosts ++ [host], false)

def removeHost (hosts : List Host) (host : Host) : List Host := hosts.eraseP (hostsMatch · host)

def addFavorite (hosts : List Host) (host : Host) (app : App) : List Host :=
  (updateFirst (hostsMatch · host) (fun existing => { existing with
    favorites := existing.favorites.eraseP (·.appId = app.appId) ++ [app] }) hosts).getD hosts

def removeFavorite (hosts : List Host) (host : Host) (appId : Int32) : List Host :=
  (updateFirst (hostsMatch · host) (fun existing => { existing with
    favorites := existing.favorites.eraseP (·.appId = appId) }) hosts).getD hosts

/-! ## The first match -/

section UpdateFirst

variable {p : Host → Bool} {f : Host → Host} {hosts hosts' : List Host}

lemma updateFirst_eq_none : updateFirst p f hosts = none ↔ ∀ h ∈ hosts, p h = false := by
  induction hosts with
  | nil => simp [updateFirst]
  | cons h hosts ih =>
    by_cases hp : p h = true
    · simp [updateFirst, hp]
    · simp [updateFirst, hp, ih]

lemma updateFirst_eq_some (hupdate : updateFirst p f hosts = some hosts') :
    ∃ before e after, hosts = before ++ e :: after ∧ (∀ b ∈ before, p b = false) ∧
      p e = true ∧ hosts' = before ++ f e :: after := by
  induction hosts generalizing hosts' with
  | nil => simp [updateFirst] at hupdate
  | cons h hosts ih =>
    unfold updateFirst at hupdate
    split_ifs at hupdate with hp
    · obtain rfl := Option.some.inj hupdate
      exact ⟨[], h, hosts, rfl, by simp, hp, rfl⟩
    · obtain ⟨tail, htail, rfl⟩ := Option.map_eq_some_iff.mp hupdate
      obtain ⟨before, e, after, rfl, hbefore, he, rfl⟩ := ih htail
      refine ⟨h :: before, e, after, rfl, ?_, he, rfl⟩
      intro b hb
      cases List.mem_cons.mp hb with
      | inl heq => simpa [heq] using hp
      | inr hb => exact hbefore b hb

/-- What all entries keep under `f`, the list keeps. -/
lemma forall_updateFirst {P : Host → Prop} (hupdate : updateFirst p f hosts = some hosts')
    (hall : ∀ h ∈ hosts, P h) (hf : ∀ h ∈ hosts, P h → P (f h)) : ∀ h ∈ hosts', P h := by
  obtain ⟨before, e, after, rfl, -, -, rfl⟩ := updateFirst_eq_some hupdate
  intro h hmem
  simp only [List.mem_append, List.mem_cons] at hmem hall hf
  obtain hbefore | rfl | hafter := hmem
  · exact hall h (.inl hbefore)
  · exact hf e (.inr (.inl rfl)) (hall e (.inr (.inl rfl)))
  · exact hall h (.inr (.inr hafter))

end UpdateFirst

/-! ## What a merged entry is known by -/

variable {e i o : Host} {a : Bytes} {hosts hosts' : List Host}

lemma foldl_addEndpoint_identity (eps : List HostEndpoint) (t : Host) :
    (eps.foldl (fun t endpoint => t.addEndpoint endpoint.label endpoint.address) t).mac = t.mac ∧
      (eps.foldl (fun t endpoint => t.addEndpoint endpoint.label endpoint.address) t).hostname =
        t.hostname := by
  induction eps generalizing t with
  | nil => exact ⟨rfl, rfl⟩
  | cons endpoint eps ih =>
    rw [List.foldl_cons]
    simpa using ih (t.addEndpoint endpoint.label endpoint.address)

lemma mem_foldl_addEndpoint (eps : List HostEndpoint) (t : Host) :
    a ∈ (eps.foldl (fun t endpoint => t.addEndpoint endpoint.label endpoint.address)
      t).connectionAddresses ↔
        a ∈ t.connectionAddresses ∨ a ≠ [] ∧ ∃ endpoint ∈ eps, endpoint.address = a := by
  induction eps generalizing t with
  | nil => simp
  | cons endpoint eps ih =>
    rw [List.foldl_cons, ih, Host.mem_connectionAddresses_addEndpoint]
    simp only [List.exists_mem_cons_iff]
    constructor
    · rintro ((hold | ⟨rfl, hne⟩) | ⟨hne, hrest⟩)
      · exact .inl hold
      · exact .inr ⟨hne, .inl rfl⟩
      · exact .inr ⟨hne, .inr hrest⟩
    · rintro (hold | ⟨hne, rfl | hrest⟩)
      · exact .inl (.inl hold)
      · exact .inl (.inr ⟨rfl, hne⟩)
      · exact .inr ⟨hne, hrest⟩

/-- The favourites play no part in the addresses. -/
lemma connectionAddresses_favorites (h : Host) (favorites : List App) :
    Host.connectionAddresses { h with favorites := favorites } = h.connectionAddresses := rfl

lemma synced_favorites (h : Host) (favorites : List App) :
    Host.Synced { h with favorites := favorites } ↔ h.Synced := by
  rw [Host.synced_iff, Host.synced_iff, connectionAddresses_favorites]

lemma mergeHost_mac (e i : Host) :
    (mergeHost e i).mac = if isUsableMac i.mac then i.mac else e.mac := by
  unfold mergeHost
  by_cases hi : i.endpoints ≠ []
  · simp only [if_pos hi, (foldl_addEndpoint_identity i.endpoints _).1, overwriteFields]
  · simp only [if_neg hi, Host.ensureEndpoints_mac, overwriteFields]

lemma mergeHost_hostname (e i : Host) :
    (mergeHost e i).hostname = if i.hostname ≠ [] then i.hostname else e.hostname := by
  unfold mergeHost
  by_cases hi : i.endpoints ≠ []
  · simp only [if_pos hi, (foldl_addEndpoint_identity i.endpoints _).2, overwriteFields]
  · simp only [if_neg hi, Host.ensureEndpoints_hostname, overwriteFields]

lemma overwrite_nil (field : Bytes) : (if field ≠ [] then field else []) = field := by
  split_ifs with h
  · rfl
  · exact (not_not.mp h).symm

/-- Before its endpoints are joined, the target has its own addresses or some of the
source's. -/
lemma mem_overwriteFields (he : e.Synced) (hi : i.Synced)
    (hmem : a ∈ (overwriteFields e i).connectionAddresses) :
    a ∈ e.connectionAddresses ∨ a ∈ i.connectionAddresses := by
  by_cases hempty : e.endpoints = []
  · right
    obtain ⟨hnone, hnone'⟩ := he.legacy_nil hempty
    obtain ⟨hne, endpoint, hin, rfl⟩ := Host.mem_connectionAddresses.mp hmem
    simp only [overwriteFields, hempty, hnone, hnone', overwrite_nil] at hin
    exact hi.legacy_mem hne ((Host.legacy_address hin).imp Eq.symm Eq.symm)
  · left
    rw [← Host.connectionAddresses_congr hempty (g := overwriteFields e i) rfl]
    exact hmem

lemma mem_overwriteFields_of_mem (he : e.Synced) (hmem : a ∈ e.connectionAddresses) :
    a ∈ (overwriteFields e i).connectionAddresses := by
  obtain ⟨-, endpoint, hin, -⟩ := he.mem_connectionAddresses.mp hmem
  rw [Host.connectionAddresses_congr (g := overwriteFields e i) (List.ne_nil_of_mem hin) rfl]
  exact hmem

/-- A merged entry has the addresses of both. -/
theorem mem_connectionAddresses_merge (he : e.Synced) (hi : i.Synced) :
    a ∈ (mergeHost e i).ensureEndpoints.connectionAddresses ↔
      a ∈ e.connectionAddresses ∨ a ∈ i.connectionAddresses := by
  rw [Host.connectionAddresses_ensureEndpoints]
  unfold mergeHost
  rw [connectionAddresses_favorites]
  by_cases hsource : i.endpoints ≠ []
  · simp only [if_pos hsource, mem_foldl_addEndpoint, ← hi.mem_connectionAddresses]
    constructor
    · rintro (hmem | hmem)
      · exact mem_overwriteFields he hi hmem
      · exact .inr hmem
    · rintro (hmem | hmem)
      · exact .inl (mem_overwriteFields_of_mem he hmem)
      · exact .inr hmem
  · simp only [if_neg hsource, Host.connectionAddresses_ensureEndpoints]
    constructor
    · intro hmem
      exact mem_overwriteFields he hi hmem
    · rintro (hmem | hmem)
      · exact mem_overwriteFields_of_mem he hmem
      · obtain ⟨-, endpoint, hin, -⟩ := hi.mem_connectionAddresses.mp hmem
        exact absurd (List.ne_nil_of_mem hin) hsource

/-- Whether `o` matches the entry that `e` becomes when `i` joins it: `i`'s usable MAC and its
name replace those of `e`, and the addresses of both count. -/
def joinMatches (e i o : Host) : Bool :=
  let mac := if isUsableMac i.mac then i.mac else e.mac
  let hostname := if i.hostname ≠ [] then i.hostname else e.hostname
  let shares := sharesAddress e o || sharesAddress i o
  (isUsableMac mac && isUsableMac o.mac && normalizeMacKey mac = normalizeMacKey o.mac) ||
    (hostname ≠ [] && hostname = o.hostname && shares) ||
    ((!isUsableMac mac || !isUsableMac o.mac) && shares) ||
    hostsShareDisplayName hostname o.hostname

theorem merged_matches (he : e.Synced) (hi : i.Synced) (o : Host) :
    hostsMatchForUpsert (mergeHost e i).ensureEndpoints o = joinMatches e i o := by
  have hshare : sharesAddress (mergeHost e i).ensureEndpoints o = true ↔
      sharesAddress e o = true ∨ sharesAddress i o = true := by
    simp only [sharesAddress_iff, mem_connectionAddresses_merge he hi, or_and_right, exists_or]
  rw [Bool.eq_iff_iff, hostsMatchForUpsert_iff, hshare, Host.ensureEndpoints_mac,
    Host.ensureEndpoints_hostname, mergeHost_mac, mergeHost_hostname]
  simp only [joinMatches, Bool.or_eq_true, Bool.and_eq_true, decide_eq_true_eq,
    Bool.not_eq_true', or_assoc, and_assoc]

/-! ## Lists without duplicates -/

/-- No two entries match. -/
def Distinct (hosts : List Host) : Prop :=
  hosts.Pairwise fun a b => hostsMatchForUpsert a b = false

instance (hosts : List Host) : Decidable (Distinct hosts) :=
  inferInstanceAs (Decidable (List.Pairwise _ _))

/-- The entry that `incoming` joins, and the other entries. -/
def splitFirst (incoming : Host) : List Host → Option (Host × List Host)
  | [] => none
  | h :: hosts =>
    if hostsMatchForUpsert h incoming then some (h, hosts)
    else (splitFirst incoming hosts).map fun (e, others) => (e, h :: others)

/-- What `incoming` joins matches no third entry afterwards. -/
def joinsApart (hosts : List Host) (incoming : Host) : Bool :=
  match splitFirst incoming hosts with
  | none => true
  | some (e, others) => others.all fun o => !joinMatches e incoming o

lemma splitFirst_append {before after : List Host}
    (hbefore : ∀ b ∈ before, hostsMatchForUpsert b i = false)
    (he : hostsMatchForUpsert e i = true) :
    splitFirst i (before ++ e :: after) = some (e, before ++ after) := by
  induction before with
  | nil => simp [splitFirst, he]
  | cons b before ih =>
    have hb : hostsMatchForUpsert b i = false := hbefore b (by simp)
    have hrest := ih fun c hc => hbefore c (List.mem_cons_of_mem _ hc)
    simp [splitFirst, hb, hrest]

lemma splitFirst_eq_none (h : ∀ b ∈ hosts, hostsMatchForUpsert b i = false) :
    splitFirst i hosts = none := by
  induction hosts with
  | nil => rfl
  | cons b hosts ih =>
    have hb : hostsMatchForUpsert b i = false := h b (by simp)
    have hrest := ih fun c hc => h c (List.mem_cons_of_mem _ hc)
    simp [splitFirst, hb, hrest]

/-- An entry among others that are distinct. -/
lemma distinct_middle {before after : List Host} :
    Distinct (before ++ e :: after) ↔
      Distinct (before ++ after) ∧ ∀ o ∈ before ++ after, hostsMatchForUpsert e o = false := by
  have hperm : (before ++ e :: after).Perm (e :: (before ++ after)) := List.perm_middle
  have hsymm : ∀ {a b : Host}, hostsMatchForUpsert a b = false →
      hostsMatchForUpsert b a = false := fun h => hostsMatchForUpsert_comm ▸ h
  unfold Distinct
  rw [hperm.pairwise_iff hsymm, List.pairwise_cons, and_comm]

/-- A distinct list stays distinct exactly when the entry that is joined stays apart from the
others. -/
theorem upsertHost_distinct (hd : Distinct hosts) (hs : ∀ h ∈ hosts, h.Synced) (hi : i.Synced)
    (hupsert : upsertHost hosts i = some hosts') :
    Distinct hosts' ↔ joinsApart hosts i = true := by
  obtain ⟨before, e, after, rfl, hbefore, he, rfl⟩ := updateFirst_eq_some hupsert
  have hothers : Distinct (before ++ after) := (distinct_middle.mp hd).1
  have hsynced : e.Synced := hs e (by simp)
  rw [distinct_middle, joinsApart, splitFirst_append hbefore he]
  simp only [hothers, true_and, merged_matches hsynced hi, List.all_eq_true, Bool.not_eq_true']

lemma append_distinct (hd : Distinct hosts) (hnone : upsertHost hosts i = none) :
    Distinct (hosts ++ [i]) := by
  rw [show hosts ++ [i] = hosts ++ i :: [] from rfl, distinct_middle, List.append_nil]
  refine ⟨hd, fun o ho => ?_⟩
  rw [hostsMatchForUpsert_comm]
  exact updateFirst_eq_none.mp hnone o ho

lemma joinsApart_of_none (hnone : upsertHost hosts i = none) : joinsApart hosts i = true := by
  rw [joinsApart, splitFirst_eq_none (updateFirst_eq_none.mp hnone)]

/-! ## Calls on the list -/

lemma upsertHost_synced (hs : ∀ h ∈ hosts, h.Synced) (hupsert : upsertHost hosts i = some hosts') :
    ∀ h ∈ hosts', h.Synced :=
  forall_updateFirst hupsert hs fun _ _ _ => Host.synced_ensureEndpoints

theorem addHost_synced (hs : ∀ h ∈ hosts, h.Synced) (host : Host) :
    ∀ h ∈ addHost hosts host, h.Synced := by
  unfold addHost
  dsimp only
  split
  · next hupsert => exact upsertHost_synced hs hupsert
  · split_ifs
    · intro h hmem
      cases List.mem_append.mp hmem with
      | inl hold => exact hs h hold
      | inr hnew => exact List.mem_singleton.mp hnew ▸ Host.synced_ensureEndpoints
    · exact hs

/-- `add_host` keeps the list distinct exactly when the entry that is joined stays apart. -/
theorem addHost_distinct (hd : Distinct hosts) (hs : ∀ h ∈ hosts, h.Synced) (host : Host) :
    Distinct (addHost hosts host) ↔ joinsApart hosts host.ensureEndpoints = true := by
  unfold addHost
  dsimp only
  split
  · next hupsert => exact upsertHost_distinct hd hs Host.synced_ensureEndpoints hupsert
  · next hnone =>
    have happart := joinsApart_of_none hnone
    split_ifs
    · simpa [happart] using append_distinct hd hnone
    · simpa [happart] using hd

theorem loadHost_synced (hs : ∀ h ∈ hosts, h.Synced) (hi : i.Synced) :
    ∀ h ∈ (loadHost hosts i).1, h.Synced := by
  unfold loadHost
  split
  · next hupsert => exact upsertHost_synced hs hupsert
  · intro h hmem
    cases List.mem_append.mp hmem with
    | inl hold => exact hs h hold
    | inr hnew => exact List.mem_singleton.mp hnew ▸ hi

theorem loadHost_distinct (hd : Distinct hosts) (hs : ∀ h ∈ hosts, h.Synced) (hi : i.Synced) :
    Distinct (loadHost hosts i).1 ↔ joinsApart hosts i = true := by
  unfold loadHost
  split
  · next hupsert => exact upsertHost_distinct hd hs hi hupsert
  · next hnone => simpa [joinsApart_of_none hnone] using append_distinct hd hnone

/-- Where no entry matches, a record is appended. -/
lemma loadHost_append (h : ∀ b ∈ hosts, hostsMatchForUpsert b i = false) :
    loadHost hosts i = (hosts ++ [i], false) := by
  have hnone : upsertHost hosts i = none := updateFirst_eq_none.mpr h
  simp [loadHost, hnone]

lemma removeHost_sublist (hosts : List Host) (host : Host) :
    (removeHost hosts host).Sublist hosts := List.eraseP_sublist

theorem removeHost_distinct (hd : Distinct hosts) (host : Host) :
    Distinct (removeHost hosts host) :=
  List.Pairwise.sublist (removeHost_sublist hosts host) hd

theorem removeHost_synced (hs : ∀ h ∈ hosts, h.Synced) (host : Host) :
    ∀ h ∈ removeHost hosts host, h.Synced :=
  fun h hmem => hs h ((removeHost_sublist hosts host).subset hmem)

section Favorites

variable {p : Host → Bool} {favorites : Host → List App}

/-- A change of favourites is no change of identity. -/
lemma favorites_distinct (hd : Distinct hosts) :
    Distinct ((updateFirst p (fun e => { e with favorites := favorites e }) hosts).getD hosts) := by
  cases hupdate : updateFirst p (fun e => { e with favorites := favorites e }) hosts with
  | none => exact hd
  | some hosts' =>
    obtain ⟨before, e, after, rfl, -, -, rfl⟩ := updateFirst_eq_some hupdate
    obtain ⟨hothers, hapart⟩ := distinct_middle.mp hd
    rw [Option.getD_some, distinct_middle]
    refine ⟨hothers, fun o ho => ?_⟩
    exact (hostsMatchForUpsert_congr (h := e) rfl rfl fun _ => Iff.rfl).trans (hapart o ho)

lemma favorites_synced (hs : ∀ h ∈ hosts, h.Synced) :
    ∀ h ∈ (updateFirst p (fun e => { e with favorites := favorites e }) hosts).getD hosts,
      h.Synced := by
  cases hupdate : updateFirst p (fun e => { e with favorites := favorites e }) hosts with
  | none => exact hs
  | some hosts' =>
    exact forall_updateFirst hupdate hs fun h _ hsynced => (synced_favorites h _).mpr hsynced

end Favorites

end ArtemisSwitch.HostStore
