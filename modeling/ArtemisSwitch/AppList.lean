import ArtemisSwitch.Library.Cells
import ArtemisSwitch.Pairing

/-!
# The list of apps

`xml_applist` collects the text of an element in a block of memory that grows with every piece of
the text.  An element without a text leaves the block as it was allocated.
-/

namespace ArtemisSwitch.AppList
open HostAddress DecimalText Pairing Cells

/-! ## The handlers -/

structure AppNode where
  id : Int32 := 0
  name : Option (Block UInt8) := none
  uuid : Option (Block UInt8) := none
  serverOrder : ℕ := 0
  deriving DecidableEq, Repr

/-- `data` is the linked list, whose first item is the last app. -/
structure Query where
  memory : Block UInt8 := [some 0]
  size : ℕ := 0
  start : Bool := false
  data : List AppNode := []
  deriving DecidableEq, Repr

/-- A C string, unless a byte of it was not written. -/
def cString (memory : Block UInt8) : Option Bytes := loadUntil (· = 0) memory

def fields : List Bytes := [ascii "ID", ascii "AppTitle", ascii "UUID"]

def isField (name : Bytes) : Bool := name ∈ fields

/-- `malloc` always succeeds here. -/
def startApplistElement (search : Query) (name : Bytes) : Query :=
  if name = ascii "App" then { search with data := {} :: search.data }
  else if isField name then { search with memory := fresh 1, size := 0, start := true }
  else search

/-- What the end of a field does to the app. -/
def setField (list : AppNode) (name : Bytes) (memory : Block UInt8) : Option AppNode :=
  if name = ascii "ID" then (cString memory).map fun text => { list with id := atoi text }
  else if name = ascii "AppTitle" then some { list with name := some memory }
  else if name = ascii "UUID" then some { list with uuid := some memory }
  else some list

def endApplistElement (search : Query) (name : Bytes) : Option Query :=
  if search.start then
    match search.data with
    | [] => some search
    | list :: rest =>
      (setField list name search.memory).map fun list =>
        { search with start := false, data := list :: rest }
  else some search

/-- `realloc` always succeeds here. -/
def writeData (search : Query) (s : Bytes) : Option Query :=
  if search.start then do
    let memory := resize search.memory (search.size + s.length + 1)
    let memory ← store memory search.size s
    let size := search.size + s.length
    let memory ← store memory size [0]
    some { search with memory := memory, size := size }
  else some search

def Query.next (search : Query) : XmlEvent → Option Query
  | .start name _ => some (startApplistElement search name)
  | .close name => endApplistElement search name
  | .text s => writeData search s

/-- The loop that turns the list round. -/
def reverseLoop : List AppNode → List AppNode → List AppNode
  | [], ordered => ordered
  | item :: reversed, ordered => reverseLoop reversed (item :: ordered)

def numberLoop : ℕ → List AppNode → List AppNode
  | _, [] => []
  | order, item :: rest => { item with serverOrder := order } :: numberLoop (order + 1) rest

/-- `none` when a byte is read that was not written. -/
def xmlApplist (expat : Expat) (data : Bytes) : Option (Except ℤ (List AppNode)) :=
  match expat data with
  | none => some (.error GS_INVALID)
  | some events =>
    (events.foldlM Query.next {}).map fun query => .ok (numberLoop 0 (reverseLoop query.data []))

/-! ## Documents -/

/-- An element without elements in it, its text in the pieces that the parser hands over, and what
stands in front of it. -/
structure Leaf where
  blank : List Bytes := []
  name : Bytes
  atts : List (Bytes × Bytes) := []
  chunks : List Bytes
  deriving DecidableEq, Repr

namespace Leaf

def text (l : Leaf) : Bytes := l.chunks.flatten

def events (l : Leaf) : List XmlEvent :=
  l.blank.map .text ++ .start l.name l.atts :: (l.chunks.map .text ++ [.close l.name])

/-- No piece is empty, and no text has a NUL in it. -/
def Valid (l : Leaf) : Prop :=
  l.name ≠ ascii "App" ∧ ∀ chunk ∈ l.chunks, chunk ≠ [] ∧ 0 ∉ chunk

end Leaf

structure App where
  blank : List Bytes := []
  atts : List (Bytes × Bytes) := []
  leaves : List Leaf
  blankEnd : List Bytes := []
  deriving DecidableEq, Repr

structure AppRecord where
  id : Int32
  name : Option Bytes
  uuid : Option Bytes
  serverOrder : ℕ
  deriving DecidableEq, Repr

namespace App

def events (a : App) : List XmlEvent :=
  a.blank.map .text ++ .start (ascii "App") a.atts ::
    (a.leaves.flatMap Leaf.events ++ (a.blankEnd.map .text ++ [.close (ascii "App")]))

def find (a : App) (name : Bytes) : Option Bytes :=
  (a.leaves.find? (·.name = name)).map Leaf.text

/-- What the document says of the app. -/
def record (a : App) (order : ℕ) : AppRecord where
  id := (a.find (ascii "ID")).elim 0 atoi
  name := a.find (ascii "AppTitle")
  uuid := a.find (ascii "UUID")
  serverOrder := order

/-- No field is there twice. -/
def Valid (a : App) : Prop :=
  (∀ l ∈ a.leaves, l.Valid) ∧ ∀ name ∈ fields, a.leaves.countP (·.name = name) ≤ 1

end App

structure Document where
  atts : List (Bytes × Bytes) := []
  apps : List App
  blankEnd : List Bytes := []
  deriving DecidableEq, Repr

def Document.events (d : Document) : List XmlEvent :=
  .start (ascii "root") d.atts ::
    (d.apps.flatMap App.events ++ (d.blankEnd.map .text ++ [.close (ascii "root")]))

/-- A name or a UUID as a caller reads it. -/
def readField : Option (Block UInt8) → Option (Option Bytes)
  | none => some none
  | some memory => (cString memory).map some

def readApp (node : AppNode) : Option AppRecord := do
  let name ← readField node.name
  let uuid ← readField node.uuid
  some { id := node.id, name := name, uuid := uuid, serverOrder := node.serverOrder }

variable {search : Query} {node : AppNode} {rest : List AppNode} {l : Leaf} {a : App}
  {text chunk : Bytes} {chunks blank : List Bytes}

/-! ## One element -/

lemma texts_idle (h : search.start = false) (blank : List Bytes) :
    (blank.map XmlEvent.text).foldlM Query.next search = some search := by
  induction blank with
  | nil => rfl
  | cons s blank ih =>
    have hs : writeData search s = some search := by simp [writeData, h]
    rw [List.map_cons, List.foldlM_cons, Query.next, hs, Option.bind_eq_bind, Option.bind_some, ih]

/-- The block ends in one cell behind the text so far: the one of a fresh block, or a NUL. -/
lemma writeData_eq {cell : Option UInt8} (hstart : search.start = true)
    (hmemory : search.memory = filled text ++ [cell]) (hsize : search.size = text.length)
    (s : Bytes) : writeData search s = some { search with
      memory := filled (text ++ s) ++ [some 0], size := (text ++ s).length } := by
  have hresize : resize search.memory (text.length + s.length + 1) =
      filled text ++ (cell :: fresh s.length) := by
    have hlength : search.memory.length = text.length + 1 := by
      rw [hmemory, List.length_append, length_filled, List.length_singleton]
    have hgrown : text.length + s.length + 1 - search.memory.length = s.length := by omega
    rw [resize, List.take_of_length_le (by omega), hgrown, hmemory, List.append_assoc]
    rfl
  have htext : store (filled text ++ (cell :: fresh s.length)) text.length s =
      some (filled (text ++ s) ++ (cell :: fresh s.length).drop s.length) :=
    store_append (by simp)
  have hbehind : ((cell :: fresh s.length : Block UInt8).drop s.length).length = 1 := by simp
  have hnone : ((cell :: fresh s.length : Block UInt8).drop s.length).drop [(0 : UInt8)].length =
      [] := List.drop_of_length_le (Nat.le_of_eq hbehind)
  have hend := @store_append _ ((cell :: fresh s.length).drop s.length) (text ++ s) [0]
    (Nat.le_of_eq hbehind.symm)
  rw [hnone, List.append_nil, filled_append (text ++ s)] at hend
  rw [writeData, if_pos hstart]
  simp only [hsize, hresize, htext, Option.bind_eq_bind, Option.bind_some]
  rw [← List.length_append, hend]
  rfl

/-- The block at the end of an element. -/
def Leaf.memory (l : Leaf) : Block UInt8 :=
  if l.chunks = [] then fresh 1 else filled l.text ++ [some 0]

lemma texts_collected {cell : Option UInt8} (hstart : search.start = true)
    (hmemory : search.memory = filled text ++ [cell]) (hsize : search.size = text.length)
    (chunks : List Bytes) :
    (chunks.map XmlEvent.text).foldlM Query.next search = some { search with
      memory := filled (text ++ chunks.flatten) ++ [if chunks = [] then cell else some 0]
      size := (text ++ chunks.flatten).length } := by
  induction chunks generalizing search text cell with
  | nil =>
    obtain ⟨memory, size, start, data⟩ := search
    simp only at hmemory hsize hstart
    subst hmemory hsize hstart
    simp
  | cons s chunks ih =>
    have hwrite := writeData_eq hstart hmemory hsize s
    rw [List.map_cons, List.foldlM_cons, Query.next, hwrite, Option.bind_eq_bind,
      Option.bind_some]
    have hrest := @ih { search with
      memory := filled (text ++ s) ++ [some 0], size := (text ++ s).length } (text ++ s)
      (some 0) hstart rfl rfl
    rw [hrest]
    simp [List.append_assoc]

lemma run_one (search : Query) (e : XmlEvent) : [e].foldlM Query.next search = search.next e := by
  rw [List.foldlM_cons]
  exact bind_pure _

lemma leaf_unknown (h : isField l.name = false) (hl : l.Valid) (hstart : search.start = false) :
    l.events.foldlM Query.next search = some search := by
  have hopen : startApplistElement search l.name = search := by
    simp [startApplistElement, hl.1, h]
  have hclose : endApplistElement search l.name = some search := by
    simp [endApplistElement, hstart]
  rw [Leaf.events, List.foldlM_append, texts_idle hstart, Option.bind_eq_bind, Option.bind_some,
    List.foldlM_cons, Query.next, hopen, Option.bind_eq_bind, Option.bind_some,
    List.foldlM_append, texts_idle hstart, Option.bind_eq_bind, Option.bind_some,
    run_one, Query.next, hclose]

lemma leaf_field (h : isField l.name = true) (hl : l.Valid) (hstart : search.start = false)
    (hdata : search.data = node :: rest) :
    l.events.foldlM Query.next search = (setField node l.name l.memory).map fun node =>
      { memory := l.memory, size := l.text.length, start := false, data := node :: rest } := by
  have hopen : startApplistElement search l.name =
      { memory := filled [] ++ [none], size := 0, start := true, data := node :: rest } := by
    simp [startApplistElement, hl.1, h, hdata, filled, fresh]
  have hmemory : filled ([] ++ l.chunks.flatten) ++ [if l.chunks = [] then none else some 0] =
      l.memory := by
    unfold Leaf.memory
    split_ifs with hchunks
    · rw [hchunks]
      rfl
    · rfl
  rw [Leaf.events, List.foldlM_append, texts_idle hstart, Option.bind_eq_bind, Option.bind_some,
    List.foldlM_cons, Query.next, hopen, Option.bind_eq_bind, Option.bind_some,
    List.foldlM_append, texts_collected rfl rfl rfl, Option.bind_eq_bind, Option.bind_some,
    run_one, Query.next, endApplistElement, if_pos rfl]
  rw [hmemory]
  rfl

/-! ## The list -/

section Rel
variable {α β γ δ : Type} {R : α → β → Prop} {S : γ → δ → Prop} {r : Option α} {r' : Option β}

lemma rel_bind {k : α → Option γ} {k' : β → Option δ} (h : Option.Rel R r r')
    (hk : ∀ a b, R a b → Option.Rel S (k a) (k' b)) : Option.Rel S (r.bind k) (r'.bind k') := by
  cases h with
  | some h => exact hk _ _ h
  | none => exact .none

/-- A step on one side that never fails. -/
lemma rel_then {T : α → β → Prop} {k : α → Option α} (h : Option.Rel R r r')
    (hk : ∀ a b, R a b → ∃ a', k a = some a' ∧ T a' b) : Option.Rel T (r.bind k) r' := by
  cases h with
  | some h =>
    obtain ⟨a', hstep, ha'⟩ := hk _ _ h
    rw [Option.bind_some, hstep]
    exact .some ha'
  | none => exact .none

lemma rel_map {T : α → δ → Prop} {f : β → δ} (h : Option.Rel R r r')
    (hf : ∀ a b, R a b → T a (f b)) : Option.Rel T r (r'.map f) := by
  cases h with
  | some h => exact .some (hf _ _ h)
  | none => exact .none

lemma map_eq_of_rel {f : α → γ} {g : β → γ} (h : Option.Rel R r r')
    (hfg : ∀ a b, R a b → f a = g b) : r.map f = r'.map g := by
  cases h with
  | some h => exact congrArg some (hfg _ _ h)
  | none => rfl

end Rel

/-- Between two elements only the list matters. -/
def Idle (data : List AppNode) (search : Query) : Prop :=
  search.start = false ∧ search.data = data

/-- The app as the handlers leave it. -/
def App.build (a : App) : Option AppNode :=
  a.leaves.foldlM (fun node l => setField node l.name l.memory) {}

lemma setField_unknown (h : isField l.name = false) (memory : Block UInt8) :
    setField node l.name memory = some node := by
  simp only [isField, fields, List.mem_cons, List.not_mem_nil, or_false, not_or,
    decide_eq_false_iff_not] at h
  rw [setField, if_neg h.1, if_neg h.2.1, if_neg h.2.2]

lemma leaf_rel (hl : l.Valid) (h : Idle (node :: rest) search) :
    Option.Rel (fun search node => Idle (node :: rest) search)
      (l.events.foldlM Query.next search) (setField node l.name l.memory) := by
  cases hfield : isField l.name with
  | false =>
    rw [leaf_unknown hfield hl h.1, setField_unknown hfield]
    exact .some h
  | true =>
    rw [leaf_field hfield hl h.1 h.2]
    cases setField node l.name l.memory with
    | none => exact .none
    | some node => exact .some ⟨rfl, rfl⟩

lemma leaves_rel {leaves : List Leaf} (hl : ∀ l ∈ leaves, l.Valid)
    (h : Idle (node :: rest) search) :
    Option.Rel (fun search node => Idle (node :: rest) search)
      ((leaves.flatMap Leaf.events).foldlM Query.next search)
      (leaves.foldlM (fun node l => setField node l.name l.memory) node) := by
  induction leaves generalizing search node with
  | nil => exact .some h
  | cons l leaves ih =>
    rw [List.flatMap_cons, List.foldlM_append, List.foldlM_cons]
    exact rel_bind (leaf_rel (hl l List.mem_cons_self) h) fun _ _ hnext =>
      ih (fun l hmem => hl l (List.mem_cons_of_mem _ hmem)) hnext

/-- Pieces of text and the end of an element that is no field. -/
lemma idle_end {data : List AppNode} (h : Idle data search) (blank : List Bytes) (name : Bytes) :
    (blank.map XmlEvent.text ++ [XmlEvent.close name]).foldlM Query.next search =
      some search := by
  have hclose : endApplistElement search name = some search := by
    simp [endApplistElement, h.1]
  rw [List.foldlM_append, texts_idle h.1, Option.bind_eq_bind, Option.bind_some, run_one]
  exact hclose

lemma app_rel {data : List AppNode} (ha : ∀ l ∈ a.leaves, l.Valid) (h : Idle data search) :
    Option.Rel (fun search node => Idle (node :: data) search)
      (a.events.foldlM Query.next search) a.build := by
  have hopen : Idle ({} :: data) (startApplistElement search (ascii "App")) := by
    rw [startApplistElement, if_pos rfl]
    exact ⟨h.1, congrArg _ h.2⟩
  rw [App.events, List.foldlM_append, texts_idle h.1, Option.bind_eq_bind, Option.bind_some,
    List.foldlM_cons, Query.next, Option.bind_eq_bind, Option.bind_some, List.foldlM_append]
  exact rel_then (leaves_rel ha hopen) fun next _ hnext => ⟨next, idle_end hnext _ _, hnext⟩

/-- The list is built from its end. -/
lemma apps_rel {apps : List App} {nodes : List AppNode} (ha : ∀ a ∈ apps, ∀ l ∈ a.leaves, l.Valid)
    (h : Idle nodes search) :
    Option.Rel (fun search built => Idle (built.reverse ++ nodes) search)
      ((apps.flatMap App.events).foldlM Query.next search) (apps.mapM App.build) := by
  induction apps generalizing search nodes with
  | nil => exact .some h
  | cons a apps ih =>
    rw [List.flatMap_cons, List.foldlM_append, List.mapM_cons]
    refine rel_bind (app_rel (ha a List.mem_cons_self) h) fun next node hnext => ?_
    have hrest := ih (fun a hmem => ha a (List.mem_cons_of_mem _ hmem)) hnext
    rw [bind_pure_comp]
    refine rel_map hrest fun last built hlast => ?_
    rw [List.reverse_cons, List.append_assoc]
    exact hlast

lemma reverseLoop_eq (reversed ordered : List AppNode) :
    reverseLoop reversed ordered = reversed.reverse ++ ordered := by
  induction reversed generalizing ordered with
  | nil => rfl
  | cons item reversed ih =>
    rw [reverseLoop, ih, List.reverse_cons, List.append_assoc]
    rfl

def Document.Valid (d : Document) : Prop := ∀ a ∈ d.apps, a.Valid

instance (l : Leaf) : Decidable l.Valid := inferInstanceAs (Decidable (_ ∧ _))

instance (a : App) : Decidable a.Valid := inferInstanceAs (Decidable (_ ∧ _))

instance (d : Document) : Decidable d.Valid := inferInstanceAs (Decidable (∀ a ∈ d.apps, a.Valid))

/-- The handlers build each app on its own, and the list keeps the order of the document. -/
theorem xmlApplist_eq {d : Document} (hd : d.Valid) {expat : Expat} {data : Bytes}
    (hexpat : expat data = some d.events) :
    xmlApplist expat data =
      (d.apps.mapM App.build).map fun nodes => .ok (numberLoop 0 nodes) := by
  have hstart : Idle [] {} := ⟨rfl, rfl⟩
  have hopen : startApplistElement {} (ascii "root") = {} := by decide +kernel
  have hrel := apps_rel (fun a ha => (hd a ha).1) hstart
  have hdocument : Option.Rel (fun search built => Idle built.reverse search)
      (d.events.foldlM Query.next {}) (d.apps.mapM App.build) := by
    rw [Document.events, List.foldlM_cons, Query.next, hopen, Option.bind_eq_bind,
      Option.bind_some, List.foldlM_append]
    refine rel_then hrel fun last built hlast => ⟨last, idle_end hlast _ _, ?_⟩
    rwa [List.append_nil] at hlast
  rw [xmlApplist, hexpat]
  refine map_eq_of_rel hdocument fun last built hlast => ?_
  rw [hlast.2, reverseLoop_eq, List.append_nil, List.reverse_reverse]

/-! ## What a caller reads -/

lemma cString_memory (hl : l.Valid) :
    cString l.memory = if l.chunks = [] then none else some l.text := by
  unfold Leaf.memory
  split_ifs with hchunks
  · rfl
  · have htext : ∀ c ∈ l.text, (c = 0 : Bool) = false := by
      intro c hc
      obtain ⟨chunk, hchunk, hmem⟩ := List.mem_flatten.mp hc
      have hne : c ≠ 0 := fun h => (hl.2 chunk hchunk).2 (h ▸ hmem)
      simpa using hne
    exact loadUntil_filled htext (by decide) []

lemma text_eq_nil_iff (hl : l.Valid) : l.text = [] ↔ l.chunks = [] := by
  rw [Leaf.text, List.flatten_eq_nil_iff]
  constructor
  · intro h
    cases hchunks : l.chunks with
    | nil => rfl
    | cons chunk chunks =>
      have hmem : chunk ∈ l.chunks := hchunks ▸ List.mem_cons_self
      exact absurd (h chunk hmem) (hl.2 chunk hmem).1
  · intro h chunk hmem
    rw [h] at hmem
    cases hmem

def named (leaves : List Leaf) (name : Bytes) : Option Leaf := leaves.find? (·.name = name)

/-- An element whose name is its own is the one that is found. -/
lemma named_of_mem {leaves : List Leaf} (hl : l ∈ leaves)
    (hone : leaves.countP (·.name = l.name) ≤ 1) : named leaves l.name = some l := by
  induction leaves with
  | nil => cases hl
  | cons x leaves ih =>
    rw [List.countP_cons] at hone
    by_cases hx : x.name = l.name
    · have hnone : leaves.countP (·.name = l.name) = 0 := by
        rw [if_pos (by simpa using hx)] at hone
        omega
      rcases List.mem_cons.mp hl with rfl | hmem
      · simp [named]
      · exact absurd (decide_eq_true rfl) (List.countP_eq_zero.mp hnone l hmem)
    · rcases List.mem_cons.mp hl with rfl | hmem
      · exact absurd rfl hx
      · have hrest := ih hmem (by omega)
        simpa [named, hx] using hrest

lemma named_cons_self {leaves : List Leaf} {name : Bytes} (h : l.name = name)
    (hone : (l :: leaves).countP (·.name = name) ≤ 1) : named leaves name = none := by
  rw [List.countP_cons, if_pos (by simpa using h)] at hone
  have hnone : leaves.countP (·.name = name) = 0 := by omega
  exact List.find?_eq_none.mpr fun x hx => List.countP_eq_zero.mp hnone x hx

lemma named_cons_of_ne {leaves : List Leaf} {name : Bytes} (h : l.name ≠ name) :
    named (l :: leaves) name = named leaves name := by
  simp [named, h]

lemma named_cons_of_eq {leaves : List Leaf} {name : Bytes} (h : l.name = name) :
    named (l :: leaves) name = some l := by
  simp [named, h]

/-- The app has the fields that its elements give. -/
lemma foldlM_setField {leaves : List Leaf}
    (hone : ∀ name ∈ fields, leaves.countP (·.name = name) ≤ 1) (node : AppNode) :
    leaves.foldlM (fun node l => setField node l.name l.memory) node =
      ((named leaves (ascii "ID")).elim (some node.id) fun l => (cString l.memory).map atoi).map
        fun id =>
          { id := id
            name := ((named leaves (ascii "AppTitle")).map Leaf.memory).or node.name
            uuid := ((named leaves (ascii "UUID")).map Leaf.memory).or node.uuid
            serverOrder := node.serverOrder } := by
  induction leaves generalizing node with
  | nil => rfl
  | cons l leaves ih =>
    have htail : ∀ name ∈ fields, leaves.countP (·.name = name) ≤ 1 := by
      intro name hname
      have hcount := hone name hname
      rw [List.countP_cons] at hcount
      omega
    rw [List.foldlM_cons]
    -- the element names one field or none, and what is found of the others is in the rest
    by_cases hid : l.name = ascii "ID"
    · have htitle : l.name ≠ ascii "AppTitle" := by rw [hid]; decide
      have huuid : l.name ≠ ascii "UUID" := by rw [hid]; decide
      have hlast := named_cons_self hid (hone _ (by decide))
      rw [named_cons_of_eq hid, named_cons_of_ne htitle, named_cons_of_ne huuid, setField,
        if_pos hid]
      cases hread : cString l.memory with
      | none => simp [hread]
      | some text =>
        simp [hread, ih htail, hlast]
    by_cases htitle : l.name = ascii "AppTitle"
    · have huuid : l.name ≠ ascii "UUID" := by rw [htitle]; decide
      have hlast := named_cons_self htitle (hone _ (by decide))
      rw [named_cons_of_ne hid, named_cons_of_eq htitle, named_cons_of_ne huuid, setField,
        if_neg hid, if_pos htitle]
      simp [ih htail, hlast]
    by_cases huuid : l.name = ascii "UUID"
    · have hlast := named_cons_self huuid (hone _ (by decide))
      rw [named_cons_of_ne hid, named_cons_of_ne htitle, named_cons_of_eq huuid, setField,
        if_neg hid, if_neg htitle, if_pos huuid]
      simp [ih htail, hlast]
    · rw [named_cons_of_ne hid, named_cons_of_ne htitle, named_cons_of_ne huuid, setField,
        if_neg hid, if_neg htitle, if_neg huuid]
      simp [ih htail]

/-- The app that a caller reads at a place of the list. -/
def App.read (a : App) (order : ℕ) : Option AppRecord :=
  a.build.bind fun node => readApp { node with serverOrder := order }

def App.Complete (a : App) : Prop := ∀ l ∈ a.leaves, isField l.name = true → l.text ≠ []

lemma read_eq (ha : a.Valid) (order : ℕ) : a.read order = (do
    let id ← (named a.leaves (ascii "ID")).elim (some 0) fun l => (cString l.memory).map atoi
    let name ← readField ((named a.leaves (ascii "AppTitle")).map Leaf.memory)
    let uuid ← readField ((named a.leaves (ascii "UUID")).map Leaf.memory)
    some { id := id, name := name, uuid := uuid, serverOrder := order }) := by
  rw [App.read, App.build, foldlM_setField ha.2, Option.bind_map]
  simp only [Option.or_none]
  rfl

/-- What is found has a text, if every field has. -/
lemma cString_named (ha : a.Valid) (hcomplete : a.Complete) {name : Bytes}
    (hname : isField name = true) (h : named a.leaves name = some l) :
    cString l.memory = some l.text := by
  have hmem : l ∈ a.leaves := List.mem_of_find?_eq_some h
  have heq : l.name = name := by simpa using List.find?_some h
  have htext := hcomplete l hmem (heq ▸ hname)
  rw [ne_eq, text_eq_nil_iff (ha.1 l hmem)] at htext
  rw [cString_memory (ha.1 l hmem), if_neg htext]

lemma readField_named (ha : a.Valid) (hcomplete : a.Complete) {name : Bytes}
    (hname : isField name = true) :
    readField ((named a.leaves name).map Leaf.memory) = some (a.find name) := by
  rw [App.find, ← named]
  cases h : named a.leaves name with
  | none => rfl
  | some l =>
    rw [Option.map_some, readField, cString_named ha hcomplete hname h]
    rfl

lemma read_of_complete (ha : a.Valid) (hcomplete : a.Complete) (order : ℕ) :
    a.read order = some (a.record order) := by
  have hid : ((named a.leaves (ascii "ID")).elim (some 0) fun l => (cString l.memory).map atoi) =
      some ((a.find (ascii "ID")).elim 0 atoi) := by
    rw [App.find, ← named]
    cases h : named a.leaves (ascii "ID") with
    | none => rfl
    | some l =>
      rw [Option.elim_some, cString_named ha hcomplete (by decide) h]
      rfl
  rw [read_eq ha, hid, readField_named ha hcomplete (by decide),
    readField_named ha hcomplete (by decide)]
  rfl

/-- A field without a text leaves a byte that was not written. -/
lemma read_of_not_complete (ha : a.Valid) (hcomplete : ¬a.Complete) (order : ℕ) :
    a.read order = none := by
  unfold App.Complete at hcomplete
  push Not at hcomplete
  obtain ⟨l, hl, hfield, htext⟩ := hcomplete
  rw [isField, decide_eq_true_eq] at hfield
  have hnamed := named_of_mem hl (ha.2 l.name hfield)
  have hread : cString l.memory = none := by
    rw [cString_memory (ha.1 l hl), if_pos ((text_eq_nil_iff (ha.1 l hl)).mp htext)]
  rw [read_eq ha]
  simp only [fields, List.mem_cons, List.not_mem_nil, or_false] at hfield
  rcases hfield with hid | htitle | huuid
  · rw [hid] at hnamed
    rw [hnamed, Option.elim_some, hread]
    rfl
  · rw [htitle] at hnamed
    simp [hnamed, readField, hread]
  · rw [huuid] at hnamed
    simp [hnamed, readField, hread]

def readAll (apps : List App) (order : ℕ) : Option (List AppRecord) :=
  (apps.mapM App.build).bind fun nodes => (numberLoop order nodes).mapM readApp

lemma readAll_cons (a : App) (apps : List App) (order : ℕ) : readAll (a :: apps) order =
    (a.read order).bind fun first => (readAll apps (order + 1)).map (first :: ·) := by
  rw [readAll, readAll, App.read, List.mapM_cons]
  cases a.build with
  | none => rfl
  | some node =>
    cases apps.mapM App.build with
    | none => simp
    | some nodes =>
      simp only [Option.bind_eq_bind, Option.bind_some, Option.pure_def, numberLoop,
        List.mapM_cons, Option.map_eq_bind]
      rfl

lemma readAll_of_complete {apps : List App} (ha : ∀ a ∈ apps, a.Valid)
    (hcomplete : ∀ a ∈ apps, a.Complete) (order : ℕ) :
    readAll apps order = some (apps.mapIdx fun i a => a.record (order + i)) := by
  induction apps generalizing order with
  | nil => rfl
  | cons a apps ih =>
    have hrest := ih (fun a hmem => ha a (List.mem_cons_of_mem _ hmem))
      (fun a hmem => hcomplete a (List.mem_cons_of_mem _ hmem)) (order + 1)
    rw [readAll_cons, read_of_complete (ha a List.mem_cons_self) (hcomplete a List.mem_cons_self),
      hrest, List.mapIdx_cons]
    simp only [Option.bind_some, Option.map_some, Nat.add_zero, Nat.add_assoc, Nat.add_comm 1]

lemma readAll_of_not_complete {apps : List App} (ha : ∀ a ∈ apps, a.Valid)
    (hcomplete : ¬∀ a ∈ apps, a.Complete) (order : ℕ) : readAll apps order = none := by
  induction apps generalizing order with
  | nil => exact absurd nofun hcomplete
  | cons a apps ih =>
    rw [readAll_cons]
    by_cases hfirst : a.Complete
    · have hrest : ¬∀ a ∈ apps, a.Complete := fun h =>
        hcomplete (List.forall_mem_cons.mpr ⟨hfirst, h⟩)
      rw [ih (fun a hmem => ha a (List.mem_cons_of_mem _ hmem)) hrest]
      cases a.read order <;> rfl
    · rw [read_of_not_complete (ha a List.mem_cons_self) hfirst, Option.bind_none]

/-- **The list has what the document says, read without a byte that was not filled, exactly when
no field is empty.** -/
theorem applist_reads (d : Document) (hd : d.Valid) (expat : Expat) (data : Bytes)
    (hexpat : expat data = some d.events) :
    (∃ list, xmlApplist expat data = some (.ok list) ∧
      list.mapM readApp = some (d.apps.mapIdx fun order a => a.record order)) ↔
      ∀ a ∈ d.apps, ∀ l ∈ a.leaves, isField l.name = true → l.text ≠ [] := by
  have hread : (∃ list, xmlApplist expat data = some (.ok list) ∧
      list.mapM readApp = some (d.apps.mapIdx fun order a => a.record order)) ↔
      readAll d.apps 0 = some (d.apps.mapIdx fun order a => a.record order) := by
    rw [xmlApplist_eq hd hexpat, readAll, Option.bind_eq_some_iff]
    constructor
    · rintro ⟨list, hlist, hrecords⟩
      obtain ⟨nodes, hnodes, hok⟩ := Option.map_eq_some_iff.mp hlist
      obtain rfl := Except.ok.inj hok
      exact ⟨nodes, hnodes, hrecords⟩
    · rintro ⟨nodes, hnodes, hrecords⟩
      exact ⟨numberLoop 0 nodes, by rw [hnodes]; rfl, hrecords⟩
  rw [hread]
  by_cases hcomplete : ∀ a ∈ d.apps, a.Complete
  · have hall := readAll_of_complete hd hcomplete 0
    simp only [Nat.zero_add] at hall
    exact iff_of_true hall hcomplete
  · rw [readAll_of_not_complete hd hcomplete]
    exact iff_of_false nofun hcomplete

/-- Two apps, with a text in two pieces. -/
def deskDocument : Document where
  apps :=
    [{ blank := [[10]]
       leaves :=
        [{ name := ascii "UUID", chunks := [ascii "u-1"] },
          { name := ascii "IsHdrSupported", chunks := [] },
          { name := ascii "ID", chunks := [ascii "4", ascii "2"] }] },
      { leaves := [{ name := ascii "AppTitle", chunks := [ascii "Desk", ascii "top"] }] }]

theorem applist_reads_desk :
    ∃ list, xmlApplist (fun _ => some deskDocument.events) [] = some (.ok list) ∧
      list.mapM readApp = some
        [{ id := 42, name := none, uuid := some (ascii "u-1"), serverOrder := 0 },
          { id := 0, name := some (ascii "Desktop"), uuid := none, serverOrder := 1 }] := by
  have hvalid : deskDocument.Valid := by decide +kernel
  exact (applist_reads deskDocument hvalid (fun _ => some deskDocument.events) [] rfl).mpr
    (by decide +kernel)

/-- An app whose id is an empty element. -/
def emptyIdDocument : Document where
  apps := [{ leaves := [{ name := ascii "ID", chunks := [] }] }]

/-- The first byte that `atoi` looks at was not filled. -/
theorem applist_empty_id : emptyIdDocument.Valid ∧
    xmlApplist (fun _ => some emptyIdDocument.events) [] = none := by
  decide +kernel

end ArtemisSwitch.AppList
