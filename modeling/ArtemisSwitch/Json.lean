import Mathlib.Data.Rat.Defs
import ArtemisSwitch.Transport

/-!
# JSON values

The value type of `nlohmann::json`, `find`, and `value(key, default)`, which
throws when the key is there with a value that does not convert.  The parser
itself is a parameter of what is built on this module.
-/

namespace ArtemisSwitch

/-- An object lists its members in the order of their keys. -/
inductive Json
  | null
  | boolean (value : Bool)
  | unsigned (value : UInt64)
  | integer (value : Int64)
  | float (value : ℚ)
  | string (value : Bytes)
  | array (items : List Json)
  | object (members : List (Bytes × Json))

/-- Why a reader of JSON returns nothing: `type_error` was thrown, or `nullopt` is returned, with
or without a text in `*error`. -/
inductive Fault
  | typeError
  | rejected (error : Option Bytes)
  deriving DecidableEq, Repr

/-- `*error` is set and `nullopt` returned. -/
def reject {α : Type*} (text : String) : Except Fault α := .error (.rejected (some (ascii text)))

namespace Json

def find (key : String) : Json → Option Json
  | .object members => members.lookup (ascii key)
  | _ => none

def isObject : Json → Bool
  | .object _ => true
  | _ => false

/-- The items under a key that holds an array. -/
def arrayAt (key : String) (node : Json) : Option (List Json) :=
  match node.find key with
  | some (.array items) => some items
  | _ => none

/-! ## get -/

def getString : Json → Option Bytes
  | .string value => some value
  | _ => none

def getBoolean : Json → Option Bool
  | .boolean value => some value
  | _ => none

/-- `get<int>` also takes a boolean, and a number of any kind by `static_cast`. -/
def getInt : Json → Option Int32
  | .boolean value => some (if value then 1 else 0)
  | .unsigned value => some value.toUInt32.toInt32
  | .integer value => some value.toInt32
  | .float value => some (Int32.ofInt (value.num.tdiv value.den))
  | _ => none

/-- `get<std::uint64_t>` takes numbers only. -/
def getUint64 : Json → Option UInt64
  | .unsigned value => some value
  | .integer value => some value.toUInt64
  | .float value => some (UInt64.ofInt (value.num.tdiv value.den))
  | _ => none

/-! ## value(key, default) -/

variable {α β : Type}

def value (get : Json → Option α) (default : α) (node : Json) (key : String) : Except Fault α :=
  match node.find key with
  | none => .ok default
  | some v => match get v with
    | some a => .ok a
    | none => .error .typeError

/-- The key is absent, or its value converts. -/
def Reads (get : Json → Option α) (node : Json) (key : String) : Prop :=
  ∀ v, node.find key = some v → (get v).isSome

/-- What `value` returns where it returns. -/
def read (get : Json → Option α) (default : α) (node : Json) (key : String) : α :=
  ((node.find key).bind get).getD default

def text (node : Json) (key : String) : Bytes := node.read getString [] key

def flag (node : Json) (key : String) : Bool := node.read getBoolean false key

variable {get : Json → Option α} {default : α} {node : Json} {key : String}

lemma value_of_reads (h : node.Reads get key) :
    value get default node key = .ok (read get default node key) := by
  unfold value read
  rcases hf : node.find key with _ | v
  · rfl
  · obtain ⟨a, ha⟩ := Option.isSome_iff_exists.mp (h v hf)
    simp [ha]

lemma value_of_not_reads (h : ¬ node.Reads get key) :
    value get default node key = .error .typeError := by
  obtain ⟨v, hv⟩ := not_forall.mp h
  obtain ⟨hf, hn⟩ := Classical.not_imp.mp hv
  simp [value, hf, Option.not_isSome_iff_eq_none.mp hn]

lemma value_eq_ok {a : α} :
    value get default node key = .ok a ↔ node.Reads get key ∧ a = read get default node key := by
  by_cases h : node.Reads get key
  · simp [value_of_reads h, h, eq_comm]
  · simp [value_of_not_reads h, h]

end Json

/-! ## Readers that do not throw and say why they refuse -/

/-- `nullopt` was returned with a text in `*error`. -/
def Fault.Told : Fault → Prop
  | .rejected (some error) => error ≠ []
  | _ => False

/-- The reader returns a value, or says why it does not. -/
def Answered {α : Type*} (x : Except Fault α) : Prop := ∀ fault, x = .error fault → fault.Told

/-- The reader returns a value. -/
def Returns {α : Type*} (x : Except Fault α) : Prop := ∃ a, x = .ok a

variable {α β : Type} {x : Except Fault α} {f : α → Except Fault β} {a : α} {b : β}

@[simp] lemma answered_ok : Answered (.ok a : Except Fault α) := by simp [Answered]

lemma answered_reject {text : String} (h : text ≠ "") :
    Answered (reject text : Except Fault α) := by
  rintro fault ⟨⟩
  simpa [Fault.Told, ascii] using h

@[simp] lemma not_returns_reject {text : String} : ¬ Returns (reject text : Except Fault α) := by
  rintro ⟨a, h⟩
  cases h

@[simp] lemma answered_error {fault : Fault} :
    Answered (.error fault : Except Fault α) ↔ fault.Told := by simp [Answered]

/-- Reading on is fine as long as the first reader is, and the second wherever it gets to run. -/
lemma answered_bind : Answered (x >>= f) ↔ Answered x ∧ ∀ a, x = .ok a → Answered (f a) := by
  rcases x with e | a
  · change Answered (.error e : Except Fault β) ↔ _
    simp
  · change Answered (f a) ↔ _
    simp

@[simp] lemma returns_ok : Returns (.ok a : Except Fault α) := ⟨a, rfl⟩

@[simp] lemma not_returns_error {fault : Fault} : ¬ Returns (.error fault : Except Fault α) := by
  rintro ⟨a, h⟩
  cases h

lemma forall_ok {P : Prop} : (∀ a, x = .ok a → P) ↔ (Returns x → P) := by
  simp [Returns]

lemma exists_ok_iff {P : Prop} {Q : α → Prop} {b : α} (h : ∀ a, x = .ok a ↔ P ∧ a = b) :
    (∃ a, x = .ok a ∧ Q a) ↔ P ∧ Q b := by
  simp only [h]
  exact ⟨fun ⟨a, ⟨hp, ha⟩, hq⟩ => ⟨hp, ha ▸ hq⟩, fun ⟨hp, hq⟩ => ⟨b, ⟨hp, rfl⟩, hq⟩⟩

lemma exists_ok {P : Prop} : (∃ a, x = .ok a ∧ P) ↔ Returns x ∧ P := exists_and_right

lemma bind_eq_ok : x >>= f = .ok b ↔ ∃ a, x = .ok a ∧ f a = .ok b := by
  rcases x with e | a
  · change (.error e : Except Fault β) = .ok b ↔ _
    simp
  · change f a = .ok b ↔ _
    simp

lemma returns_bind : Returns (x >>= f) ↔ ∃ a, x = .ok a ∧ Returns (f a) := by
  simp only [Returns, bind_eq_ok]
  exact ⟨fun ⟨b, a, ha, hb⟩ => ⟨a, ha, b, hb⟩, fun ⟨a, ha, b, hb⟩ => ⟨b, a, ha, hb⟩⟩

lemma returns_map {g : α → β} : Returns (x.map g) ↔ Returns x := by
  rcases x with e | a <;> simp [Except.map]

lemma answered_map {g : α → β} : Answered (x.map g) ↔ Answered x := by
  rcases x with e | a <;> simp [Except.map]

variable {get : Json → Option α} {default : α} {node : Json} {key : String}

lemma returns_value : Returns (node.value get default key) ↔ node.Reads get key := by
  simp [Returns, Json.value_eq_ok]

lemma answered_value : Answered (node.value get default key) ↔ node.Reads get key := by
  by_cases h : node.Reads get key
  · simp [Json.value_of_reads h, h]
  · simp [Json.value_of_not_reads h, h, Fault.Told]

/-- A field that is read first has to convert, and then stands for what it reads as. -/
lemma answered_value_bind : Answered (node.value get default key >>= f) ↔
    node.Reads get key ∧ Answered (f (node.read get default key)) := by
  rw [answered_bind, answered_value]
  refine and_congr_right fun h => ?_
  simp [Json.value_of_reads h]

lemma value_bind_eq_ok : node.value get default key >>= f = .ok b ↔
    node.Reads get key ∧ f (node.read get default key) = .ok b := by
  simp only [bind_eq_ok, Json.value_eq_ok]
  exact ⟨fun ⟨a, ⟨h, ha⟩, hb⟩ => ⟨h, ha ▸ hb⟩, fun ⟨h, hb⟩ => ⟨_, ⟨h, rfl⟩, hb⟩⟩

lemma returns_value_bind : Returns (node.value get default key >>= f) ↔
    node.Reads get key ∧ Returns (f (node.read get default key)) := by
  simp only [Returns, value_bind_eq_ok, exists_and_left]

/-! ## Readers that never refuse -/

/-- Nothing but a field of a wrong type stops the reader. -/
def OnlyThrows {α : Type*} (x : Except Fault α) : Prop :=
  ∀ fault, x = .error fault → fault = .typeError

lemma OnlyThrows.answered_iff (h : OnlyThrows x) : Answered x ↔ Returns x := by
  rcases x with fault | a
  · simp [h fault rfl, Fault.Told]
  · simp

lemma onlyThrows_ok : OnlyThrows (.ok a : Except Fault α) := nofun

lemma OnlyThrows.bind (h : OnlyThrows x) (hf : ∀ a, OnlyThrows (f a)) : OnlyThrows (x >>= f) := by
  rcases x with fault | a
  · rintro _ ⟨⟩
    exact h fault rfl
  · exact hf a

lemma onlyThrows_value : OnlyThrows (node.value get default key) := by
  by_cases h : node.Reads get key
  · rw [Json.value_of_reads h]
    exact onlyThrows_ok
  · rintro fault heq
    rw [Json.value_of_not_reads h] at heq
    cases heq
    rfl

end ArtemisSwitch
