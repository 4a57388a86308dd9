import Mathlib.Data.List.DropRight
import Mathlib.Data.Rat.Defs
import ArtemisSwitch.Transport

/-!
# Jansson

The values of the library with the calls that build and read objects.  A text that is not
UTF-8 makes no value, and a member without a value is not set.
-/

namespace ArtemisSwitch.Jansson

inductive Value
  | null
  | boolean (value : Bool)
  | integer (value : Int64)
  | real (value : ℚ)
  | string (value : Bytes)
  | array (items : List Value)
  | object (members : List (Bytes × Value))

namespace Value

/-- `json_object_get`, which finds nothing in what is no object. -/
def get (key : Bytes) : Value → Option Value
  | .object members => members.lookup key
  | _ => none

/-- The items that `json_array_size` and `json_array_get` run through. -/
def items : Value → List Value
  | .array items => items
  | _ => []

def isObject : Value → Bool
  | .object _ => true
  | _ => false

/-- The text of a value that `json_typeof` calls a string. -/
def text : Value → Option Bytes
  | .string value => some value
  | _ => none

/-- The number of a value that `json_typeof` calls an integer, as an `int`. -/
def int : Value → Option Int32
  | .integer value => some value.toInt32
  | _ => none

/-- What is read under a key whose value has the right type. -/
def read {α : Type} (kind : Value → Option α) (key : String) (v : Value) : Option α :=
  (v.get (ascii key)).bind kind

end Value

/-! ## UTF-8 -/

/-- How many bytes of the character are still to come, and the bounds of the next one. -/
abbrev Utf8State := ℕ × UInt8 × UInt8

def utf8Lead (b : UInt8) : Option Utf8State :=
  if b ≤ 0x7F then some (0, 0x80, 0xBF)
  else if 0xC2 ≤ b ∧ b ≤ 0xDF then some (1, 0x80, 0xBF)
  else if b = 0xE0 then some (2, 0xA0, 0xBF)
  else if b = 0xED then some (2, 0x80, 0x9F)
  else if 0xE1 ≤ b ∧ b ≤ 0xEF then some (2, 0x80, 0xBF)
  else if b = 0xF0 then some (3, 0x90, 0xBF)
  else if b = 0xF4 then some (3, 0x80, 0x8F)
  else if 0xF1 ≤ b ∧ b ≤ 0xF3 then some (3, 0x80, 0xBF)
  else none

def utf8Step : Option Utf8State → UInt8 → Option Utf8State
  | none, _ => none
  | some (0, _), b => utf8Lead b
  | some (n + 1, low, high), b => if low ≤ b ∧ b ≤ high then some (n, 0x80, 0xBF) else none

def isUtf8 (s : Bytes) : Bool :=
  match s.foldl utf8Step (some (0, 0x80, 0xBF)) with
  | some (0, _) => true
  | _ => false

/-- What a C string holds of the text. -/
def cString (s : Bytes) : Bytes := s.takeWhile (· ≠ 0)

/-- The text can be stored: it is UTF-8 without NUL. -/
def Storable (s : Bytes) : Prop := isUtf8 s = true ∧ 0 ∉ s

instance (s : Bytes) : Decidable (Storable s) := inferInstanceAs (Decidable (_ ∧ _))

/-- `json_string` of `c_str()`. -/
def jsonString (s : Bytes) : Option Value :=
  if isUtf8 (cString s) then some (.string (cString s)) else none

def jsonInteger (n : Int32) : Option Value := some (.integer n.toInt64)

def jsonBoolean (b : Bool) : Option Value := some (.boolean b)

def jsonReal (x : ℚ) : Option Value := some (.real x)

/-! ## Objects -/

/-- `json_object_set_new`. -/
def setNew (members : List (Bytes × Value)) (key : Bytes) : Option Value → List (Bytes × Value)
  | none => members
  | some v =>
    if isUtf8 key = false then members
    else if members.any (·.1 = key) then
      members.map fun m => if m.1 = key then (key, v) else m
    else members ++ [(key, v)]

/-- An object that is filled member by member. -/
def makeObject (fields : List (Bytes × Option Value)) : Value :=
  .object (fields.foldl (fun members field => setNew members field.1 field.2) [])

lemma jsonString_of_storable {s : Bytes} (h : Storable s) : jsonString s = some (.string s) := by
  have hc : cString s = s := by
    rw [cString, List.takeWhile_eq_self_iff]
    intro c hc
    have hne : c ≠ 0 := by
      rintro rfl
      exact h.2 hc
    simpa using hne
  rw [jsonString, hc, if_pos h.1]

lemma isUtf8_of_ascii {s : Bytes} (h : ∀ c ∈ s, c ≤ 0x7F) : isUtf8 s = true := by
  have hstay : s.foldl utf8Step (some (0, 0x80, 0xBF)) = some (0, 0x80, 0xBF) := by
    induction s with
    | nil => rfl
    | cons c s ih =>
      have hc : c ≤ 0x7F := h c (by simp)
      have hlead : utf8Step (some (0, 0x80, 0xBF)) c = some (0, 0x80, 0xBF) := by
        simp [utf8Step, utf8Lead, hc]
      rw [List.foldl_cons, hlead]
      exact ih fun d hd => h d (List.mem_cons_of_mem _ hd)
  rw [isUtf8, hstay]; rfl

/-- Members with different keys come in the order in which they are set. -/
lemma foldl_setNew (fields : List (Bytes × Option Value)) (members : List (Bytes × Value))
    (hnodup : (fields.map Prod.fst).Nodup) (hutf8 : ∀ f ∈ fields, isUtf8 f.1 = true)
    (hfresh : ∀ f ∈ fields, ∀ m ∈ members, m.1 ≠ f.1) :
    fields.foldl (fun members field => setNew members field.1 field.2) members =
      members ++ fields.filterMap fun f => f.2.map fun v => (f.1, v) := by
  induction fields generalizing members with
  | nil => simp
  | cons f fields ih =>
    obtain ⟨key, value⟩ := f
    obtain ⟨hnew, htail⟩ := List.nodup_cons.mp hnodup
    have hkey : isUtf8 key = true := hutf8 (key, value) (by simp)
    have hrest : ∀ f ∈ fields, isUtf8 f.1 = true := fun f hf => hutf8 f (by simp [hf])
    rw [List.foldl_cons, List.filterMap_cons]
    cases value with
    | none =>
      rw [setNew, ih members htail hrest fun f hf => hfresh f (by simp [hf])]
      rfl
    | some v =>
      have habsent : members.any (·.1 = key) = false := by
        rw [List.any_eq_false]
        intro m hm
        simpa using hfresh (key, some v) (by simp) m hm
      have hset : setNew members key (some v) = members ++ [(key, v)] := by
        simp [setNew, hkey, habsent]
      rw [hset, ih _ htail hrest ?_]
      · simp
      · intro f hf m hm
        cases List.mem_append.mp hm with
        | inl hold => exact hfresh f (by simp [hf]) m hold
        | inr hlast =>
          rw [List.mem_singleton.mp hlast]
          rintro rfl
          exact hnew (List.mem_map.mpr ⟨f, hf, rfl⟩)

lemma makeObject_eq {fields : List (Bytes × Option Value)} (hnodup : (fields.map Prod.fst).Nodup)
    (hutf8 : ∀ f ∈ fields, isUtf8 f.1 = true) :
    makeObject fields = .object (fields.filterMap fun f => f.2.map fun v => (f.1, v)) := by
  rw [makeObject, foldl_setNew fields [] hnodup hutf8 (by simp), List.nil_append]

/-- What was set under a key is found there. -/
theorem get_makeObject {fields : List (Bytes × Option Value)} {key : Bytes} {value : Option Value}
    (hnodup : (fields.map Prod.fst).Nodup) (hutf8 : ∀ f ∈ fields, isUtf8 f.1 = true)
    (hmem : (key, value) ∈ fields) : (makeObject fields).get key = value := by
  rw [makeObject_eq hnodup hutf8, Value.get]
  obtain ⟨before, after, rfl⟩ := List.append_of_mem hmem
  rw [List.map_append, List.map_cons, List.nodup_append, List.nodup_cons] at hnodup
  obtain ⟨-, ⟨hafter, -⟩, hbefore⟩ := hnodup
  have hother : ∀ fields : List (Bytes × Option Value), (∀ f ∈ fields, key ≠ f.1) →
      (fields.filterMap fun f => f.2.map fun v => (f.1, v)).lookup key = none := by
    intro fields hne
    rw [List.lookup_eq_none_iff]
    intro m hm
    obtain ⟨f, hf, hfm⟩ := List.mem_filterMap.mp hm
    obtain ⟨w, -, rfl⟩ := Option.map_eq_some_iff.mp hfm
    simpa using hne f hf
  have hfront := hother before fun f hf => (hbefore f.1 (List.mem_map_of_mem hf) key (by simp)).symm
  have hback := hother after fun f hf heq => hafter (List.mem_map.mpr ⟨f, hf, heq.symm⟩)
  rw [List.filterMap_append, List.lookup_append, hfront, List.filterMap_cons]
  cases value with
  | none => simpa using hback
  | some v => simp

/-- Keys that can all be set. -/
def keysOk (keys : List Bytes) : Bool := keys.Nodup && keys.all isUtf8

/-- What was set as the `n`-th member is found under its key. -/
lemma get_makeObject_at {fields : List (Bytes × Option Value)} {keys : List Bytes} {key : String}
    {value : Option Value} (n : ℕ) (hok : keysOk keys = true) (hkeys : fields.map Prod.fst = keys)
    (hget : fields[n]? = some (ascii key, value)) : (makeObject fields).get (ascii key) = value := by
  obtain ⟨hnodup, hutf8⟩ := (Bool.and_eq_true _ _).mp hok
  rw [← hkeys] at hnodup hutf8
  apply get_makeObject (of_decide_eq_true hnodup) _ (List.mem_of_getElem? hget)
  intro f hf
  exact List.all_eq_true.mp hutf8 f.1 (List.mem_map_of_mem hf)

lemma read_makeObject {α : Type} {fields : List (Bytes × Option Value)} {keys : List Bytes}
    {kind : Value → Option α} {key : String} {value : Option Value} (n : ℕ)
    (hok : keysOk keys = true) (hkeys : fields.map Prod.fst = keys)
    (hget : fields[n]? = some (ascii key, value)) :
    (makeObject fields).read kind key = value.bind kind := by
  rw [Value.read, get_makeObject_at n hok hkeys hget]

@[simp] lemma jsonInteger_bind (n : Int32) : (jsonInteger n).bind Value.int = some n := by
  simp [jsonInteger, Value.int]

lemma jsonString_bind {s : Bytes} (h : Storable s) : (jsonString s).bind Value.text = some s := by
  rw [jsonString_of_storable h]; rfl

lemma zero_notMem_cString (s : Bytes) : 0 ∉ cString s := by
  intro h
  have hne := List.mem_takeWhile_imp h
  simp at hne

/-- Only a text that can be stored is read as it was written. -/
lemma jsonString_bind_iff {s : Bytes} :
    (jsonString s).bind Value.text = some s ↔ Storable s := by
  refine ⟨fun h => ?_, jsonString_bind⟩
  unfold jsonString at h
  split_ifs at h with hutf8
  · have hsame : cString s = s := Option.some.inj h
    exact ⟨hsame ▸ hutf8, fun hzero => zero_notMem_cString s (hsame.symm ▸ hzero)⟩
  · cases h

/-- The empty text in its place can be stored itself. -/
lemma jsonString_getD_iff {s : Bytes} :
    ((jsonString s).bind Value.text).getD [] = s ↔ Storable s := by
  rw [← jsonString_bind_iff]
  unfold jsonString
  split_ifs with hutf8
  · show cString s = s ↔ some (cString s) = some s
    rw [Option.some.injEq]
  · constructor
    · rintro rfl
      exact absurd rfl hutf8
    · intro h
      cases h

lemma mem_setNew {members : List (Bytes × Value)} {key : Bytes} {value : Option Value}
    {m : Bytes × Value} (h : m ∈ setNew members key value) :
    (∃ old ∈ members, old.1 = m.1) ∨ m.1 = key ∧ isUtf8 key = true := by
  cases value with
  | none => exact .inl ⟨m, h, rfl⟩
  | some v =>
    unfold setNew at h
    dsimp only at h
    split_ifs at h with hutf8 hany
    · exact .inl ⟨m, h, rfl⟩
    · obtain ⟨old, hold, rfl⟩ := List.mem_map.mp h
      refine .inl ⟨old, hold, ?_⟩
      split_ifs with heq
      · exact heq
      · rfl
    · rcases List.mem_append.mp h with hold | hnew
      · exact .inl ⟨m, hold, rfl⟩
      · rw [List.mem_singleton.mp hnew]
        exact .inr ⟨rfl, Bool.of_not_eq_false hutf8⟩

/-- The keys of an object are UTF-8, and were set. -/
lemma key_of_mem_makeObject {fields : List (Bytes × Option Value)} {members : List (Bytes × Value)}
    (h : makeObject fields = .object members) {m : Bytes × Value} (hm : m ∈ members) :
    isUtf8 m.1 = true ∧ ∃ f ∈ fields, m.1 = f.1 := by
  have hfrom : ∀ before : List (Bytes × Value), ∀ m ∈ fields.foldl
      (fun members field => setNew members field.1 field.2) before,
        (∃ old ∈ before, old.1 = m.1) ∨ isUtf8 m.1 = true ∧ ∃ f ∈ fields, m.1 = f.1 := by
    clear h hm
    induction fields with
    | nil => exact fun before m hm => .inl ⟨m, hm, rfl⟩
    | cons f fields ih =>
      intro before m hm
      rcases ih _ m hm with ⟨old, hold, hkey⟩ | ⟨hutf8, g, hg, hkey⟩
      · rcases mem_setNew hold with ⟨older, holder, hsame⟩ | ⟨hsame, hutf8⟩
        · exact .inl ⟨older, holder, hsame.trans hkey⟩
        · have hfirst : m.1 = f.1 := hkey.symm.trans hsame
          exact .inr ⟨hfirst ▸ hutf8, f, by simp, hfirst⟩
      · exact .inr ⟨hutf8, g, by simp [hg], hkey⟩
  rw [makeObject, Value.object.injEq] at h
  rcases hfrom [] m (h ▸ hm) with ⟨old, hold, -⟩ | hkey
  · cases hold
  · exact hkey

end ArtemisSwitch.Jansson
