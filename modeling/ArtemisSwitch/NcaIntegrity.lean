import ArtemisSwitch.ForwarderNca
import Mathlib.Algebra.Order.BigOperators.Group.List
import Mathlib.Data.List.Induction

/-!
# What an NCA holds can be read back

The sections follow each other, a reader finds the files of a PFS0 section at the recorded
offsets, and every hash is the hash of what it covers.
-/

namespace ArtemisSwitch.Forwarder
open ByteLayout

/-! ## Buffers -/

def padded (block : ℕ) (data : Bytes) : Bytes := data ++ zeros (block - data.length % block)

lemma length_padded (block : ℕ) (data : Bytes) :
    (padded block data).length = data.length + (block - data.length % block) := by
  rw [padded, List.length_append, length_zeros]

lemma length_padded_pos (data : Bytes) : 0 < (padded 0x200 data).length := by
  rw [length_padded]
  omega

lemma dvd_padding {block : ℕ} (n : ℕ) (h : 0 < block) : block ∣ n + (block - n % block) := by
  have hmod := Nat.mod_lt n h
  refine ⟨n / block + 1, ?_⟩
  have hsplit := Nat.div_add_mod n block
  rw [Nat.mul_add, Nat.mul_one]
  omega

/-- A buffer that is written at its end. -/
def filled (data : Bytes) : BufHelper := ⟨data, data.length⟩

variable {data d : Bytes} {block : ℕ}

@[simp] lemma write_filled : (filled data).write d = filled (data ++ d) := by
  unfold filled BufHelper.write
  rw [overwrite_end rfl, List.length_append]

lemma write_empty : ({} : BufHelper).write d = filled d := @write_filled [] _

lemma writePadding_filled (off : ℕ) (h : 0 < block) :
    writePadding (filled data) off block =
      (filled (data ++ zeros (block - off % block)), block - off % block) := by
  have hmod := Nat.mod_lt off h
  unfold writePadding
  dsimp only
  rw [if_pos (by omega), write_filled]

lemma foldl_write {α : Type*} (l : List α) (f : α → Bytes) :
    l.foldl (fun buf x => buf.write (f x)) (filled data) = filled (data ++ l.flatMap f) := by
  induction l generalizing data with
  | nil => rw [List.foldl_nil, List.flatMap_nil, List.append_nil]
  | cons x l ih => rw [List.foldl_cons, write_filled, ih, List.flatMap_cons, List.append_assoc]

lemma addFileEntries_map (files : List (CString × Bytes)) :
    addFileEntries files = files.map fun f => ⟨f.1.1, f.2⟩ := by
  have hfold : ∀ entries : FileEntries,
      files.foldl (fun entries file => addFileEntry entries file.1 file.2) entries =
        entries ++ files.map fun f => ⟨f.1.1, f.2⟩ := by
    induction files with
    | nil => intro entries; simp
    | cons f files ih =>
      intro entries
      rw [List.foldl_cons, ih, addFileEntry, List.append_assoc, List.map_cons,
        List.singleton_append]
  exact hfold []

/-! ## Hash tables -/

section
variable (sha256 : Bytes → Hash)

/-- The hashes of the blocks, one after the other. -/
def hashTable (block : ℕ) (data : Bytes) : Bytes :=
  (blocks block data).flatMap fun b => (sha256 b).1

lemma length_hashTable : (hashTable sha256 block data).length =
    32 * ((data.length + block - 1) / block) := by
  rw [hashTable, length_flatMap_of_length fun b _ => (sha256 b).2, length_blocks]

lemma hashTable_nil (h : 0 < block) : hashTable sha256 block [] = [] := by
  rw [hashTable, blocks_nil h, List.flatMap_nil]

lemma hashLoop_end {width readSize fuel : ℕ} {src : Bytes} {buf : BufHelper} (h : 0 < fuel) :
    hashLoop sha256 width src fuel src.length readSize buf = some buf := by
  obtain ⟨fuel, rfl⟩ := Nat.exists_eq_add_one.mpr h
  rw [hashLoop, if_neg (lt_irrefl _)]

/-- The loop hashes the blocks that are left, as long as the sums fit into their words. -/
lemma hashLoop_eq {width n : ℕ} {src : Bytes} (hn : 0 < n) (hsrc : src.length < 2 ^ 32)
    (hfits : src.length + n ≤ 2 ^ width) (fuel i : ℕ) (hi : i ≤ src.length)
    (hfuel : src.length - i < fuel) :
    hashLoop sha256 width src fuel i n (filled data) =
      some (filled (data ++ hashTable sha256 n (src.drop i))) := by
  induction fuel generalizing i data with
  | zero => omega
  | succ fuel ih =>
    unfold hashLoop
    by_cases hlt : i < src.length
    · have hne : src.drop i ≠ [] := by
        rw [← List.length_pos_iff, List.length_drop]
        omega
      have htable : hashTable sha256 n (src.drop i) =
          (sha256 ((src.drop i).take n)).1 ++ hashTable sha256 n (src.drop (i + n)) := by
        rw [hashTable, blocks_cons hn hne, List.flatMap_cons, List.drop_drop]
        rfl
      have hwide : (i + n) % 2 ^ width = i + n := by
        apply Nat.mod_eq_of_lt
        omega
      rw [if_pos hlt, hwide, htable]
      dsimp only
      by_cases hlast : i + n ≥ src.length
      · -- the last block, which may be shorter
        have hnext : (i + (src.length - i)) % 2 ^ 32 = src.length := by
          rw [Nat.mod_eq_of_lt] <;> omega
        have hslice : slice src i (src.length - i) = (src.drop i).take n := by
          rw [slice, List.take_of_length_le (by simp), List.take_of_length_le (by simp; omega)]
        have hrest : src.drop (i + n) = [] := List.drop_eq_nil_of_le hlast
        rw [if_pos hlast, hnext, hslice, write_filled, hashLoop_end sha256 (by omega), hrest,
          hashTable_nil sha256 hn, List.append_nil]
      · have hnext : (i + n) % 2 ^ 32 = i + n := by
          rw [Nat.mod_eq_of_lt]
          omega
        rw [if_neg hlast, hnext, write_filled, ih (i + n) (by omega) (by omega),
          List.append_assoc]
        rfl
    · have hend : src.drop i = [] := List.drop_eq_nil_of_le (by omega)
      rw [if_neg hlt, hend, hashTable_nil sha256 hn, List.append_nil]

lemma buildPfs0HashTable_eq {pfs0 : Bytes} {blockSize : UInt32} (h : 0 < blockSize.toNat)
    (hfits : pfs0.length + blockSize.toNat ≤ 2 ^ 32) :
    buildPfs0HashTable sha256 pfs0 blockSize = some (hashTable sha256 blockSize.toNat pfs0) := by
  have hloop := @hashLoop_eq [] sha256 _ _ _ h (by omega) hfits (pfs0.length + 1) 0 (by omega)
    (by omega)
  change (hashLoop sha256 32 pfs0 (pfs0.length + 1) 0 blockSize.toNat (filled [])).map _ = _
  rw [hloop]
  rfl

/-- The level of hashes over some data. -/
def ivfcLevel (src : Bytes) : Bytes :=
  padded IVFC_HASH_BLOCK_SIZE (hashTable sha256 IVFC_HASH_BLOCK_SIZE src)

lemma createIvfcLevel_eq {src : Bytes} (hsrc : src.length < 2 ^ 32) :
    createIvfcLevel sha256 src = some (ivfcLevel sha256 src) := by
  have hblock : 0 < IVFC_HASH_BLOCK_SIZE := by decide
  have hfits : src.length + IVFC_HASH_BLOCK_SIZE ≤ 2 ^ 64 := by
    unfold IVFC_HASH_BLOCK_SIZE
    omega
  have hloop := @hashLoop_eq [] sha256 _ _ _ hblock hsrc hfits (src.length + 1) 0 (by omega)
    (by omega)
  change (hashLoop sha256 64 src (src.length + 1) 0 IVFC_HASH_BLOCK_SIZE (filled [])).map _ = _
  rw [hloop, Option.map_some, List.nil_append, List.drop_zero, writePadding_filled _ hblock]
  rfl

end

/-! ## PFS0 -/

def cName (entry : FileEntry) : Bytes := entry.name ++ [0]

/-- The row of a file, behind the files before it. -/
def pfs0Row (before : FileEntries) (entry : FileEntry) : Pfs0FileTable where
  dataOffset := .ofNat (before.flatMap (·.data)).length
  dataSize := .ofNat entry.data.length
  nameOffset := .ofNat (before.flatMap cName).length

def pfs0Rows (entries : FileEntries) : List Pfs0FileTable :=
  entries.mapIdx fun i entry => pfs0Row (entries.take i) entry

lemma pfs0Rows_snoc (entries : FileEntries) (entry : FileEntry) :
    pfs0Rows (entries ++ [entry]) = pfs0Rows entries ++ [pfs0Row entries entry] := by
  unfold pfs0Rows
  rw [List.mapIdx_append]
  congr 1
  · apply List.ext_getElem
    · simp
    · intro i h₁ h₂
      have hi : i ≤ entries.length := by
        rw [List.length_mapIdx] at h₁
        exact h₁.le
      rw [List.getElem_mapIdx, List.getElem_mapIdx, List.take_append_of_le_length hi]
  · simp

lemma tables_eq (entries : FileEntries) : entries.foldl Pfs0Tables.add {} =
    { fileTable := pfs0Rows entries
      stringTable := entries.flatMap cName
      stringOffset := (entries.flatMap cName).length
      dataOffset := (entries.flatMap (·.data)).length } := by
  induction entries using List.reverseRecOn with
  | nil => rfl
  | append_singleton entries entry ih =>
    rw [List.foldl_append, ih, List.foldl_cons, List.foldl_nil, Pfs0Tables.add,
      overwrite_end rfl, pfs0Rows_snoc]
    simp [pfs0Row, cName, Nat.add_assoc]

/-- What `buildPfs0` returns, part after part. -/
def strings (entries : FileEntries) : Bytes :=
  entries.flatMap cName ++
    zeros (stringTableSize (entries.flatMap cName).length - (entries.flatMap cName).length)

def pfs0Header (entries : FileEntries) : Pfs0Header :=
  { totalFiles := .ofNat entries.length, stringTableSize := .ofNat (strings entries).length }

lemma buildPfs0_eq (entries : FileEntries) : buildPfs0 entries =
    (pfs0Header entries).bytes ++ ((pfs0Rows entries).flatMap Pfs0FileTable.bytes ++
      (strings entries ++ entries.flatMap (·.data))) := by
  have hrest : buildPfs0 entries = (entries.foldl (fun buf entry => buf.write entry.data)
      (filled ((pfs0Header entries).bytes ++ (pfs0Rows entries).flatMap Pfs0FileTable.bytes ++
        strings entries))).buf := by
    unfold buildPfs0
    dsimp only
    rw [tables_eq, write_empty, write_filled, write_filled]
    rfl
  rw [hrest, foldl_write entries (·.data), filled, List.append_assoc, List.append_assoc]

lemma length_header_bytes (h : Pfs0Header) : h.bytes.length = 16 := by
  simp [Pfs0Header.bytes]

lemma length_row_bytes (t : Pfs0FileTable) : t.bytes.length = 24 := by
  simp [Pfs0FileTable.bytes]

lemma length_strings (entries : FileEntries) :
    (strings entries).length = stringTableSize (entries.flatMap cName).length := by
  rw [strings, List.length_append, length_zeros]
  unfold stringTableSize
  omega

lemma length_rows (entries : FileEntries) :
    ((pfs0Rows entries).flatMap Pfs0FileTable.bytes).length = 24 * entries.length := by
  rw [length_flatMap_of_length fun t _ => length_row_bytes t, pfs0Rows, List.length_mapIdx]

/-- A reader of the format. -/
def parsePfs0 (b : Bytes) : Option (List (Bytes × Bytes)) :=
  if ofLe (slice b 0 4) ≠ 0x30534650 then none
  else
    let total := ofLe (slice b 4 4)
    let stringSize := ofLe (slice b 8 4)
    let stringTable := slice b (16 + 24 * total) stringSize
    some ((List.range total).map fun i =>
      let row := slice b (16 + 24 * i) 24
      let name := stringTable.drop (ofLe (slice row 16 4))
      (name.takeWhile (· ≠ 0),
        slice b (16 + 24 * total + stringSize + ofLe (slice row 0 8)) (ofLe (slice row 8 8))))

lemma header_fields (h : Pfs0Header) : slice h.bytes 0 4 = le 4 h.magic.toNat ∧
    slice h.bytes 4 4 = le 4 h.totalFiles.toNat ∧
    slice h.bytes 8 4 = le 4 h.stringTableSize.toNat := by
  unfold Pfs0Header.bytes
  simp only [List.append_assoc]
  refine ⟨slice_front (by simp), slice_middle (by simp) (by simp), ?_⟩
  rw [← List.append_assoc]
  exact slice_middle (by simp) (by simp)

lemma row_fields (t : Pfs0FileTable) : slice t.bytes 0 8 = le 8 t.dataOffset.toNat ∧
    slice t.bytes 8 8 = le 8 t.dataSize.toNat ∧ slice t.bytes 16 4 = le 4 t.nameOffset.toNat := by
  unfold Pfs0FileTable.bytes
  simp only [List.append_assoc]
  refine ⟨slice_front (by simp), slice_middle (by simp) (by simp), ?_⟩
  rw [← List.append_assoc]
  exact slice_middle (by simp) (by simp)

lemma length_buildPfs0 (entries : FileEntries) : (buildPfs0 entries).length =
    16 + 24 * entries.length + (strings entries).length + (entries.flatMap (·.data)).length := by
  rw [buildPfs0_eq, List.length_append, List.length_append, List.length_append,
    length_header_bytes, length_rows]
  omega

lemma takeWhile_cName {name rest : Bytes} (h : 0 ∉ name) :
    (name ++ 0 :: rest).takeWhile (· ≠ 0) = name := by
  rw [List.takeWhile_append_of_pos]
  · simp
  · intro c hc
    simp only [ne_eq, decide_not, Bool.not_eq_eq_eq_not, Bool.not_true, decide_eq_false_iff_not]
    rintro rfl
    exact h hc

/-- The string of a file, in the table at its offset. -/
lemma strings_drop {entries : FileEntries} {i : ℕ} (hi : i < entries.length)
    (hname : 0 ∉ entries[i].name) :
    ((strings entries).drop ((entries.take i).flatMap cName).length).takeWhile (· ≠ 0) =
      entries[i].name := by
  rw [strings, flatMap_split cName hi, List.append_assoc, List.drop_left, cName, List.append_assoc,
    List.append_assoc, List.singleton_append]
  exact takeWhile_cName hname

/-- The rows that the reader sees. -/
lemma parsed_row {entries : FileEntries} {i : ℕ} (hi : i < entries.length) :
    slice (buildPfs0 entries) (16 + 24 * i) 24 = (pfs0Row (entries.take i) entries[i]).bytes := by
  have hrow := slice_rows (l := pfs0Rows entries) (i := i) (by simpa [pfs0Rows] using hi)
    fun t _ => length_row_bytes t
  rw [buildPfs0_eq, slice_append_of_length (length_header_bytes _), slice_append_left, hrow]
  · simp [pfs0Rows]
  · rw [length_rows]
    omega

/-- The reader finds the files that were written. -/
lemma parsePfs0_buildPfs0 {entries : FileEntries} (hsize : (buildPfs0 entries).length < 2 ^ 32)
    (hnames : ∀ e ∈ entries, 0 ∉ e.name) :
    parsePfs0 (buildPfs0 entries) = some (entries.map fun e => (e.name, e.data)) := by
  rw [length_buildPfs0] at hsize
  have hheader : ∀ off n, off + n ≤ 16 →
      slice (buildPfs0 entries) off n = slice (pfs0Header entries).bytes off n := by
    intro off n h
    rw [buildPfs0_eq, slice_append_left]
    rw [length_header_bytes]
    exact h
  have hfields := header_fields (pfs0Header entries)
  have hmagic : ofLe (slice (buildPfs0 entries) 0 4) = 0x30534650 := by
    rw [hheader 0 4 (by omega), hfields.1, ofLe_le_of_lt (UInt32.toNat_lt _)]
    rfl
  have htotal : ofLe (slice (buildPfs0 entries) 4 4) = entries.length := by
    rw [hheader 4 4 (by omega), hfields.2.1, ofLe_le_of_lt (UInt32.toNat_lt _)]
    exact UInt32.toNat_ofNat_of_lt' (by change _ < 2 ^ 32; omega)
  have hstrings : ofLe (slice (buildPfs0 entries) 8 4) = (strings entries).length := by
    rw [hheader 8 4 (by omega), hfields.2.2, ofLe_le_of_lt (UInt32.toNat_lt _)]
    exact UInt32.toNat_ofNat_of_lt' (by change _ < 2 ^ 32; omega)
  have htable : slice (buildPfs0 entries) (16 + 24 * entries.length) (strings entries).length =
      strings entries := by
    rw [buildPfs0_eq, slice_append_of_length (length_header_bytes _)]
    exact slice_middle (length_rows entries) rfl
  unfold parsePfs0
  rw [hmagic, htotal, hstrings, if_neg (by simp)]
  dsimp only
  rw [htable]
  refine congrArg some ?_
  apply List.ext_getElem
  · simp
  intro i h₁ h₂
  have hi : i < entries.length := by simpa using h₂
  rw [List.getElem_map, List.getElem_range, List.getElem_map]
  have hdata := slice_flatMap (f := FileEntry.data) hi
  have hdataEnd := flatMap_take_le (·.data) hi
  have hnameEnd := flatMap_take_le cName hi
  have hstringsEnd : (entries.flatMap cName).length ≤ (strings entries).length := by
    rw [strings, List.length_append]
    omega
  have hrow := row_fields (pfs0Row (entries.take i) entries[i])
  rw [parsed_row hi, hrow.1, hrow.2.1, hrow.2.2]
  have hoffset : ofLe (le 8 (pfs0Row (entries.take i) entries[i]).dataOffset.toNat) =
      ((entries.take i).flatMap (·.data)).length := by
    rw [ofLe_le_of_lt (UInt64.toNat_lt _)]
    exact UInt64.toNat_ofNat_of_lt' (by change _ < 2 ^ 64; omega)
  have hlength : ofLe (le 8 (pfs0Row (entries.take i) entries[i]).dataSize.toNat) =
      entries[i].data.length := by
    rw [ofLe_le_of_lt (UInt64.toNat_lt _)]
    exact UInt64.toNat_ofNat_of_lt' (by change _ < 2 ^ 64; omega)
  have hname : ofLe (le 4 (pfs0Row (entries.take i) entries[i]).nameOffset.toNat) =
      ((entries.take i).flatMap cName).length := by
    rw [ofLe_le_of_lt (UInt32.toNat_lt _)]
    exact UInt32.toNat_ofNat_of_lt' (by change _ < 2 ^ 32; omega)
  rw [hoffset, hlength, hname, strings_drop hi (hnames _ (List.getElem_mem hi))]
  refine congrArg (Prod.mk entries[i].name) ?_
  rw [buildPfs0_eq, Nat.add_assoc, Nat.add_assoc, slice_append_of_length (length_header_bytes _),
    slice_append_of_length (length_rows entries), slice_append_right]
  exact hdata

/-! ## The header -/

lemma length_tableEntry (s : SectionTableEntry) : s.bytes.length = 16 := by
  simp [SectionTableEntry.bytes]

lemma length_levelInformation (l : LevelInformation) : l.bytes.length = 24 := by
  simp [LevelInformation.bytes]

lemma length_hashData (d : HashData) : d.bytes.length = 0xF8 := by
  cases d with
  | hierarchicalSha256Data d =>
    simp [HashData.bytes, HierarchicalSha256Data.bytes, LayerRegion.bytes, d.masterHash.2]
  | integrityMetaInfo d =>
    simp [HashData.bytes, IntegrityMetaInfo.bytes, InfoLevelHash.bytes, length_levelInformation,
      d.masterHash.2]

lemma length_fsHeader (h : FsHeader) : h.bytes.length = 0x200 := by
  simp [FsHeader.bytes, length_hashData]

lemma length_header (h : Header) : h.bytes.length = 0xC00 := by
  have hhash : ∀ i, (h.fsHeaderHash i).1.length = 32 := fun i => (h.fsHeaderHash i).2
  simp [Header.bytes, length_tableEntry, hhash, length_fsHeader]

/-! ## One section -/

section
variable (sha256 : Bytes → Hash)

def pfs0Section (blockSize : ℕ) (files : FileEntries) : Bytes :=
  padded 0x200 (padded 0x200 (hashTable sha256 blockSize (buildPfs0 files)) ++ buildPfs0 files)

/-- The levels over some data, the last of them first. -/
def ivfcTower : ℕ → Bytes → List Bytes
  | 0, top => [top]
  | count + 1, top => ivfcTower count (ivfcLevel sha256 top) ++ [top]

def romfsLevels (image : Bytes) : List Bytes :=
  ivfcTower sha256 5 (padded IVFC_HASH_BLOCK_SIZE image)

def romfsSection (image : Bytes) : Bytes := padded 0x200 (romfsLevels sha256 image).flatten

def pfs0FsHeader (blockSize : UInt32) (files : FileEntries) : FsHeader :=
  let pfs0 := buildPfs0 files
  let table := hashTable sha256 blockSize.toNat pfs0
  { version := 0x2
    fsType := FileSystemType_PFS0
    hashType := HashType_HierarchicalSha256
    encryptionType := EncryptionType_None
    hashData := .hierarchicalSha256Data
      { masterHash := sha256 table
        blockSize := blockSize
        layerCount := 0x2
        hashLayer := ⟨0, .ofNat table.length⟩
        pfs0Layer := ⟨.ofNat (padded 0x200 table).length, .ofNat pfs0.length⟩ } }

/-- The final record of a level. -/
def romfsLevel (image : Bytes) (level : Fin 6) : LevelInformation :=
  { levelInformation image.length (romfsLevels sha256 image) level with blockSize := 0x0E }

def romfsMetaInfo (image : Bytes) : IntegrityMetaInfo :=
  { magic := 0x43465649
    version := 0x20000
    masterHashSize := 32
    infoLevelHash := { maxLayers := 0x7, levels := romfsLevel sha256 image }
    masterHash := sha256 ((romfsLevels sha256 image).getD 0 []) }

def romfsFsHeader (image : Bytes) : FsHeader :=
  { version := 0x2
    fsType := FileSystemType_RomFS
    hashType := HashType_HierarchicalIntegrity
    encryptionType := EncryptionType_None
    hashData := .integrityMetaInfo (romfsMetaInfo sha256 image) }

/-- The header with a section from `start` to `stop`. -/
def withSection (h : Header) (index : Fin 4) (start stop : ℕ) (fsHeader : FsHeader) : Header :=
  hashFsHeader sha256 (writeNcaSection h index start stop) index fsHeader

variable {sha256} {h : Header} {index : Fin 4} {files : FileEntries} {blockSize : UInt32}
  {image : Bytes}

lemma writeNcaPadding_filled (hdata : 0x200 ∣ data.length) :
    writeNcaPadding (filled (data ++ d)) = filled (data ++ padded 0x200 d) := by
  have hmod : (data ++ d).length % 0x200 = d.length % 0x200 := by
    rw [List.length_append]
    omega
  have hoffset : (filled (data ++ d)).offset % 0x200 = d.length % 0x200 := hmod
  rw [writeNcaPadding, writePadding_filled _ (by decide), hoffset, padded, List.append_assoc]

lemma writeNcaPfs0_eq (hdata : 0x200 ∣ data.length) (hfresh : h.fsHeader index = {})
    (hstart : sectionStart h index = data.length) (hblock : 0 < blockSize.toNat)
    (hfits : (buildPfs0 files).length + blockSize.toNat ≤ 2 ^ 32) :
    writeNcaPfs0 sha256 h index files blockSize (filled data) =
      some (withSection sha256 h index data.length
          (data ++ pfs0Section sha256 blockSize.toNat files).length
          (pfs0FsHeader sha256 blockSize files),
        filled (data ++ pfs0Section sha256 blockSize.toNat files)) := by
  have hpadding : 0 < PFS0_PADDING_SIZE := by decide
  have hsection : writeNcaPadding ((filled (data ++ hashTable sha256 blockSize.toNat
      (buildPfs0 files) ++ zeros (PFS0_PADDING_SIZE - (hashTable sha256 blockSize.toNat
        (buildPfs0 files)).length % PFS0_PADDING_SIZE))).write (buildPfs0 files)) =
      filled (data ++ pfs0Section sha256 blockSize.toNat files) := by
    rw [write_filled, List.append_assoc data, List.append_assoc data,
      writeNcaPadding_filled hdata]
    rfl
  unfold writeNcaPfs0
  dsimp only
  rw [buildPfs0HashTable_eq sha256 hblock hfits]
  simp only [Option.bind_eq_bind, Option.bind_some, write_filled,
    writePadding_filled _ hpadding]
  rw [← write_filled, hsection]
  refine congrArg some (Prod.ext ?_ rfl)
  rw [sectionStart] at hstart
  simp only [writeNcaFsHeaderPfs0, withSection, hashFsHeader, writeNcaSection, hfresh,
    Function.update_self, Function.update_idem, sectionStart, hstart]
  simp only [pfs0FsHeader, length_padded, HashData.sha256Data, buildPfs0MasterHash,
    PFS0_PADDING_SIZE, filled]

lemma ivfcLevels_eq (count : ℕ) {top : Bytes}
    (hfits : ∀ level ∈ ivfcTower sha256 count top, level.length < 2 ^ 32) :
    ivfcLevels sha256 count top = some (ivfcTower sha256 count top) := by
  induction count generalizing top with
  | zero => rfl
  | succ count ih =>
    have htop : top.length < 2 ^ 32 := hfits top (by simp [ivfcTower])
    have hbelow := @ih (ivfcLevel sha256 top) fun level hlevel =>
      hfits level (List.mem_append_left _ hlevel)
    rw [ivfcLevels, createIvfcLevel_eq sha256 htop, Option.bind_eq_bind, Option.bind_some, hbelow]
    rfl

lemma foldl_write_levels (levels : List Bytes) :
    levels.foldl BufHelper.write (filled data) = filled (data ++ levels.flatten) := by
  have hfold := @foldl_write data _ levels id
  rwa [List.flatMap_id] at hfold

lemma update_blockSize (outSize : ℕ) (ivfc : List Bytes) :
    Function.update (levelInformation outSize ivfc) 5
        { levelInformation outSize ivfc 5 with blockSize := 0x0E } =
      fun level => { levelInformation outSize ivfc level with blockSize := 0x0E } := by
  funext level
  by_cases hlevel : level = 5
  · rw [hlevel, Function.update_self]
  · rw [Function.update_of_ne hlevel]
    simp [levelInformation, hlevel]

lemma padRomfs_eq (image : Bytes) :
    padRomfs image = (image.length, padded IVFC_HASH_BLOCK_SIZE image) := by
  change (image.length, (writePadding (filled image) image.length IVFC_HASH_BLOCK_SIZE).1.buf) = _
  rw [writePadding_filled _ (by decide)]
  rfl

lemma writeNcaRomfs_eq (hdata : 0x200 ∣ data.length) (hfresh : h.fsHeader index = {})
    (hstart : sectionStart h index = data.length)
    (hfits : (romfsSection sha256 image).length < 2 ^ 32) :
    writeNcaRomfs sha256 h index image (filled data) =
      some (withSection sha256 h index data.length
          (data ++ romfsSection sha256 image).length (romfsFsHeader sha256 image),
        filled (data ++ romfsSection sha256 image)) := by
  have hpadded := padRomfs_eq image
  have hlevels : ivfcLevels sha256 5 (padded IVFC_HASH_BLOCK_SIZE image) =
      some (romfsLevels sha256 image) := by
    apply ivfcLevels_eq
    intro level hlevel
    have hmember : level.length ≤ (romfsLevels sha256 image).flatten.length := by
      rw [List.length_flatten]
      exact List.le_sum_of_mem (List.mem_map_of_mem hlevel)
    rw [romfsSection, length_padded] at hfits
    omega
  have hsection : writeNcaPadding ((romfsLevels sha256 image).foldl BufHelper.write
      (filled data)) = filled (data ++ romfsSection sha256 image) := by
    rw [foldl_write_levels, writeNcaPadding_filled hdata]
    rfl
  unfold writeNcaRomfs
  rw [hpadded]
  dsimp only
  rw [hlevels]
  simp only [Option.bind_eq_bind, Option.bind_some, hsection]
  refine congrArg some (Prod.ext ?_ rfl)
  rw [sectionStart] at hstart
  simp only [writeNcaFsHeaderRomfs, withSection, hashFsHeader, writeNcaSection, hfresh,
    Function.update_self, Function.update_idem, HashData.metaInfo, update_blockSize, sectionStart,
    hstart]
  rfl

end

/-! ## What is asked of the file -/

def mediaStart (h : Header) (index : Fin 4) : ℕ := (h.fsTable index).mediaStartOffset.toNat * 0x200

def mediaStop (h : Header) (index : Fin 4) : ℕ := (h.fsTable index).mediaEndOffset.toNat * 0x200

def sectionBytes (h : Header) (data : Bytes) (index : Fin 4) : Bytes :=
  slice data (mediaStart h index) (mediaStop h index - mediaStart h index)

/-- The part of a section that a record names. -/
def region (s : Bytes) (offset size : UInt64) : Bytes := slice s offset.toNat size.toNat

def ivfcRegion (s : Bytes) (d : IntegrityMetaInfo) (level : Fin 6) : Bytes :=
  region s (d.infoLevelHash.levels level).logicalOffset (d.infoLevelHash.levels level).hashDataSize

/-- The image is hashed with its padding. -/
def coveredRegion (s : Bytes) (d : IntegrityMetaInfo) (level : Fin 6) : Bytes :=
  let l := d.infoLevelHash.levels level
  if level = 5 then
    slice s l.logicalOffset.toNat (l.hashDataSize.toNat +
      (IVFC_HASH_BLOCK_SIZE - l.hashDataSize.toNat % IVFC_HASH_BLOCK_SIZE))
  else ivfcRegion s d level

/-- The sections of a program. -/
def used (logo : FileEntries) : List (Fin 4) := if hasLogo logo then [0, 1, 2] else [0, 1]

section
variable (sha256 : Bytes → Hash)

structure Pfs0Data (s : Bytes) (d : HierarchicalSha256Data) (files : FileEntries) : Prop where
  files : parsePfs0 (region s d.pfs0Layer.offset d.pfs0Layer.size) =
    some (files.map fun e => (e.name, e.data))
  hashes : region s d.hashLayer.offset d.hashLayer.size =
    hashTable sha256 d.blockSize.toNat (region s d.pfs0Layer.offset d.pfs0Layer.size)
  master : d.masterHash = sha256 (region s d.hashLayer.offset d.hashLayer.size)

structure RomfsData (s : Bytes) (d : IntegrityMetaInfo) (image : Bytes) : Prop where
  image : ivfcRegion s d 5 = image
  hashes : ∀ level : Fin 5, ∃ padding, ivfcRegion s d level.castSucc =
    hashTable sha256 (2 ^ (d.infoLevelHash.levels level.castSucc).blockSize.toNat)
      (coveredRegion s d level.succ) ++ zeros padding
  master : d.masterHash = sha256 (ivfcRegion s d 0)

structure Intact (h : Header) (data : Bytes) (exefs : FileEntries) (image : Bytes)
    (logo : FileEntries) : Prop where
  size : h.size.toNat = data.length
  header : slice data 0 0xC00 = h.bytes
  first : mediaStart h 0 = 0xC00
  nonempty : ∀ i ∈ used logo, mediaStart h i < mediaStop h i
  contiguous : (used logo).IsChain fun i j => mediaStop h i = mediaStart h j
  last : ∀ i ∈ (used logo).getLast?, mediaStop h i = h.size.toNat
  fsHeaders : ∀ i ∈ used logo, h.fsHeaderHash i = sha256 (h.fsHeader i).bytes
  exefs : ∃ d, (h.fsHeader 0).hashData = .hierarchicalSha256Data d ∧
    Pfs0Data sha256 (sectionBytes h data 0) d exefs
  romfs : ∃ d, (h.fsHeader 1).hashData = .integrityMetaInfo d ∧
    RomfsData sha256 (sectionBytes h data 1) d image
  logo : hasLogo logo = true → ∃ d, (h.fsHeader 2).hashData = .hierarchicalSha256Data d ∧
    Pfs0Data sha256 (sectionBytes h data 2) d logo

/-! ## Each section by itself -/

variable {sha256} {files : FileEntries} {blockSize : UInt32} {image : Bytes}

lemma toNat_ofNat64 {n : ℕ} (h : n < 2 ^ 32) : (UInt64.ofNat n).toNat = n :=
  UInt64.toNat_ofNat_of_lt' (by change n < 2 ^ 64; omega)

lemma pfs0Data_section (hsize : (pfs0Section sha256 blockSize.toNat files).length < 2 ^ 32)
    (hnames : ∀ e ∈ files, 0 ∉ e.name) : ∃ d,
    (pfs0FsHeader sha256 blockSize files).hashData = .hierarchicalSha256Data d ∧
      Pfs0Data sha256 (pfs0Section sha256 blockSize.toNat files) d files := by
  refine ⟨_, rfl, ?_⟩
  have hpadded := length_padded 0x200 (hashTable sha256 blockSize.toNat (buildPfs0 files))
  rw [pfs0Section, length_padded, List.length_append, hpadded] at hsize
  have hlayer : region (pfs0Section sha256 blockSize.toNat files)
      (.ofNat (padded 0x200 (hashTable sha256 blockSize.toNat (buildPfs0 files))).length)
      (.ofNat (buildPfs0 files).length) = buildPfs0 files := by
    rw [region, toNat_ofNat64 (by omega), toNat_ofNat64 (by omega), pfs0Section]
    conv_lhs => rw [padded, List.append_assoc]
    exact slice_middle rfl rfl
  have htable : region (pfs0Section sha256 blockSize.toNat files) 0
      (.ofNat (hashTable sha256 blockSize.toNat (buildPfs0 files)).length) =
      hashTable sha256 blockSize.toNat (buildPfs0 files) := by
    rw [region, toNat_ofNat64 (by omega), pfs0Section]
    conv_lhs => rw [padded, padded, List.append_assoc, List.append_assoc]
    exact slice_front rfl
  refine ⟨?_, ?_, ?_⟩
  · dsimp only
    rw [hlayer, parsePfs0_buildPfs0 (by omega) hnames]
  · dsimp only
    rw [hlayer, htable]
  · dsimp only
    rw [htable]

lemma length_ivfcTower (count : ℕ) (top : Bytes) :
    (ivfcTower sha256 count top).length = count + 1 := by
  induction count generalizing top with
  | zero => rfl
  | succ count ih => rw [ivfcTower, List.length_append, ih, List.length_singleton]

lemma length_romfsLevels : (romfsLevels sha256 image).length = 6 := length_ivfcTower 5 _

lemma toNat_logicalOffset (hsize : (romfsLevels sha256 image).flatten.length < 2 ^ 32) {level : ℕ}
    (h : level ≤ 5) :
    (logicalOffset (hashDataSize image.length (romfsLevels sha256 image)) level).toNat =
      ((romfsLevels sha256 image).take level).flatten.length := by
  induction level with
  | zero => rfl
  | succ level ih =>
    have hlevel : level < (romfsLevels sha256 image).length := by
      rw [length_romfsLevels]
      omega
    have hend := flatMap_take_le id hlevel
    simp only [List.flatMap_id, id_eq] at hend
    have hsizeLevel : hashDataSize image.length (romfsLevels sha256 image) level =
        .ofNat (romfsLevels sha256 image)[level].length := by
      rw [hashDataSize, if_neg (by omega), List.getD_eq_getElem?_getD,
        List.getElem?_eq_getElem hlevel, Option.getD_some]
    rw [logicalOffset, UInt64.toNat_add, ih (by omega), hsizeLevel, toNat_ofNat64 (by omega),
      Nat.mod_eq_of_lt (by omega), List.take_succ_eq_append_getElem hlevel, List.flatten_append,
      List.length_append, List.flatten_singleton]

/-- A level lies at its logical offset. -/
lemma slice_level (hsize : (romfsSection sha256 image).length < 2 ^ 32) {level : ℕ}
    (h : level < 6) :
    slice (romfsSection sha256 image)
      (logicalOffset (hashDataSize image.length (romfsLevels sha256 image)) level).toNat
      ((romfsLevels sha256 image).getD level []).length =
        (romfsLevels sha256 image).getD level [] := by
  rw [romfsSection, length_padded] at hsize
  have hlevel : level < (romfsLevels sha256 image).length := by
    rw [length_romfsLevels]
    exact h
  have hend := flatMap_take_le id hlevel
  have hpart := slice_flatMap (f := id) hlevel
  simp only [List.flatMap_id, id_eq] at hend hpart
  rw [List.getD_eq_getElem?_getD, List.getElem?_eq_getElem hlevel, Option.getD_some,
    toNat_logicalOffset (by omega) (by omega), romfsSection, padded, slice_append_left hend]
  exact hpart

lemma ivfcTower_top (count : ℕ) (top : Bytes) : (ivfcTower sha256 count top)[count]? = some top := by
  cases count with
  | zero => rfl
  | succ count =>
    rw [ivfcTower, List.getElem?_append_right (by rw [length_ivfcTower]), length_ivfcTower,
      Nat.sub_self, List.getElem?_cons_zero]

/-- Every level is made of the hashes of the next one. -/
lemma ivfcTower_step {count level : ℕ} (top : Bytes) (h : level < count) :
    (ivfcTower sha256 count top)[level]? =
      ((ivfcTower sha256 count top)[level + 1]?).map (ivfcLevel sha256) := by
  induction count generalizing top with
  | zero => omega
  | succ count ih =>
    have hlength := @length_ivfcTower sha256 count (ivfcLevel sha256 top)
    rw [ivfcTower, List.getElem?_append_left (by omega)]
    by_cases hlast : level = count
    · rw [hlast, ivfcTower_top, List.getElem?_append_right (by omega), hlength, Nat.sub_self,
        List.getElem?_cons_zero, Option.map_some]
    · rw [List.getElem?_append_left (by omega)]
      exact ih _ (by omega)

lemma romfsLevels_step (level : Fin 5) : (romfsLevels sha256 image).getD level [] =
    ivfcLevel sha256 ((romfsLevels sha256 image).getD (level + 1) []) := by
  have hnext : (level : ℕ) + 1 < (romfsLevels sha256 image).length := by
    rw [length_romfsLevels]
    omega
  have hstep := @ivfcTower_step sha256 _ _ (padded IVFC_HASH_BLOCK_SIZE image) level.2
  rw [← romfsLevels, List.getElem?_eq_getElem hnext, Option.map_some] at hstep
  rw [List.getD_eq_getElem?_getD, hstep, List.getD_eq_getElem?_getD,
    List.getElem?_eq_getElem hnext, Option.getD_some, Option.getD_some]

lemma length_le_of_mem {level : Bytes} (h : level ∈ romfsLevels sha256 image) :
    level.length < (romfsSection sha256 image).length := by
  have hmember : level.length ≤ (romfsLevels sha256 image).flatten.length := by
    rw [List.length_flatten]
    exact List.le_sum_of_mem (List.mem_map_of_mem h)
  rw [romfsSection, length_padded]
  omega

/-- What a reader finds under the record of a level. -/
lemma ivfcRegion_lower (hsize : (romfsSection sha256 image).length < 2 ^ 32) (level : Fin 6)
    (h : level ≠ 5) : ivfcRegion (romfsSection sha256 image) (romfsMetaInfo sha256 image) level =
      (romfsLevels sha256 image).getD level [] := by
  have hlevel : (level : ℕ) < (romfsLevels sha256 image).length := by
    rw [length_romfsLevels]
    exact level.2
  have hne : (level : ℕ) ≠ 5 := fun heq => h (Fin.ext heq)
  have hmem : (romfsLevels sha256 image).getD level [] ∈ romfsLevels sha256 image := by
    rw [List.getD_eq_getElem?_getD, List.getElem?_eq_getElem hlevel]
    exact List.getElem_mem _
  have hlength : (hashDataSize image.length (romfsLevels sha256 image) level).toNat =
      ((romfsLevels sha256 image).getD level []).length := by
    rw [hashDataSize, if_neg hne, toNat_ofNat64 ((length_le_of_mem hmem).trans hsize)]
  change slice _ _ (hashDataSize image.length (romfsLevels sha256 image) level).toNat = _
  rw [hlength]
  exact slice_level hsize level.2

/-- The image, and the image with its padding. -/
lemma ivfcRegion_image (hsize : (romfsSection sha256 image).length < 2 ^ 32) :
    ivfcRegion (romfsSection sha256 image) (romfsMetaInfo sha256 image) 5 = image ∧
      coveredRegion (romfsSection sha256 image) (romfsMetaInfo sha256 image) 5 =
        padded IVFC_HASH_BLOCK_SIZE image := by
  have hlast : (romfsLevels sha256 image).getD 5 [] = padded IVFC_HASH_BLOCK_SIZE image := by
    rw [romfsLevels, List.getD_eq_getElem?_getD, ivfcTower_top, Option.getD_some]
  have hbig := @slice_level _ _ hsize 5 (by omega)
  rw [hlast, length_padded] at hbig
  have himage : image.length < 2 ^ 32 := by
    have hmem : padded IVFC_HASH_BLOCK_SIZE image ∈ romfsLevels sha256 image := by
      simp [romfsLevels, ivfcTower]
    have hlt := (length_le_of_mem hmem).trans hsize
    rw [length_padded] at hlt
    omega
  have hlength : (hashDataSize image.length (romfsLevels sha256 image) 5).toNat =
      image.length := by
    rw [hashDataSize, if_pos rfl, toNat_ofNat64 himage]
  constructor
  · change slice (romfsSection sha256 image)
      (logicalOffset (hashDataSize image.length (romfsLevels sha256 image)) 5).toNat
      (hashDataSize image.length (romfsLevels sha256 image) 5).toNat = image
    have hpart : slice (padded IVFC_HASH_BLOCK_SIZE image) 0 image.length = image :=
      slice_front rfl
    rw [← hbig, slice_slice (by omega), Nat.add_zero] at hpart
    rw [hlength, hpart]
  · change slice (romfsSection sha256 image)
      (logicalOffset (hashDataSize image.length (romfsLevels sha256 image)) 5).toNat
      ((hashDataSize image.length (romfsLevels sha256 image) 5).toNat + (IVFC_HASH_BLOCK_SIZE -
        (hashDataSize image.length (romfsLevels sha256 image) 5).toNat %
          IVFC_HASH_BLOCK_SIZE)) = _
    rw [hlength, hbig]

lemma romfsData_section (hsize : (romfsSection sha256 image).length < 2 ^ 32) :
    RomfsData sha256 (romfsSection sha256 image) (romfsMetaInfo sha256 image) image := by
  refine ⟨(ivfcRegion_image hsize).1, fun level => ?_, ?_⟩
  · have hcovered : coveredRegion (romfsSection sha256 image) (romfsMetaInfo sha256 image)
        level.succ = (romfsLevels sha256 image).getD (level + 1) [] := by
      by_cases hlast : level.succ = 5
      · have hlevel : (level : ℕ) + 1 = 5 := congrArg Fin.val hlast
        rw [hlast, hlevel]
        exact (ivfcRegion_image hsize).2
      · rw [coveredRegion, if_neg hlast]
        exact ivfcRegion_lower hsize level.succ hlast
    have hne : level.castSucc ≠ 5 := by
      intro heq
      have hlevel : (level : ℕ) = 5 := congrArg Fin.val heq
      omega
    rw [ivfcRegion_lower hsize level.castSucc hne, hcovered]
    exact ⟨_, romfsLevels_step level⟩
  · rw [ivfcRegion_lower hsize 0 (by decide)]
    rfl

end

/-! ## The whole file -/

def paddedSize (block n : ℕ) : ℕ := n + (block - n % block)

def hashTableSize (block n : ℕ) : ℕ := 32 * ((n + block - 1) / block)

def pfs0Size (files : FileEntries) : ℕ :=
  16 + 24 * files.length + stringTableSize (files.map fun e => e.name.length + 1).sum +
    (files.map fun e => e.data.length).sum

def pfs0SectionSize (block : ℕ) (files : FileEntries) : ℕ :=
  paddedSize 0x200 (paddedSize 0x200 (hashTableSize block (pfs0Size files)) + pfs0Size files)

/-- The levels over `n` bytes, and the bytes. -/
def ivfcSize : ℕ → ℕ → ℕ
  | 0, n => n
  | count + 1, n =>
    ivfcSize count (paddedSize IVFC_HASH_BLOCK_SIZE (hashTableSize IVFC_HASH_BLOCK_SIZE n)) + n

def romfsSectionSize (n : ℕ) : ℕ :=
  paddedSize 0x200 (ivfcSize 5 (paddedSize IVFC_HASH_BLOCK_SIZE n))

/-- The size of the file. -/
def programNcaSize (exefs : FileEntries) (imageSize : ℕ) (logo : FileEntries) : ℕ :=
  0xC00 + pfs0SectionSize 0x10000 exefs + romfsSectionSize imageSize +
    if hasLogo logo then pfs0SectionSize 0x1000 logo else 0

section
variable {sha256 : Bytes → Hash} {files : FileEntries} {image : Bytes}

lemma length_buildPfs0_size : (buildPfs0 files).length = pfs0Size files := by
  have hnames : (files.flatMap cName).length = (files.map fun e => e.name.length + 1).sum := by
    rw [List.length_flatMap]
    simp [cName]
  rw [length_buildPfs0, length_strings, hnames, List.length_flatMap]
  rfl

lemma length_pfs0Section :
    (pfs0Section sha256 block files).length = pfs0SectionSize block files := by
  rw [pfs0Section, length_padded, List.length_append, length_padded, length_hashTable,
    length_buildPfs0_size]
  rfl

lemma length_flatten_ivfcTower (count : ℕ) (top : Bytes) :
    (ivfcTower sha256 count top).flatten.length = ivfcSize count top.length := by
  induction count generalizing top with
  | zero => simp [ivfcTower, ivfcSize]
  | succ count ih =>
    rw [ivfcTower, List.flatten_append, List.length_append, ih, List.flatten_singleton, ivfcLevel,
      length_padded, length_hashTable]
    rfl

lemma length_romfsSection : (romfsSection sha256 image).length = romfsSectionSize image.length := by
  rw [romfsSection, length_padded, romfsLevels, length_flatten_ivfcTower, length_padded]
  rfl

lemma le_paddedSize (n : ℕ) : n ≤ paddedSize block n ∧ block ≤ paddedSize block n := by
  have hmod := Nat.mod_le n block
  unfold paddedSize
  omega

lemma le_ivfcSize (count n : ℕ) : count * IVFC_HASH_BLOCK_SIZE + n ≤ ivfcSize count n := by
  induction count generalizing n with
  | zero => simp [ivfcSize]
  | succ count ih =>
    have hbelow := ih (paddedSize IVFC_HASH_BLOCK_SIZE (hashTableSize IVFC_HASH_BLOCK_SIZE n))
    have hfirst := (@le_paddedSize IVFC_HASH_BLOCK_SIZE
      (hashTableSize IVFC_HASH_BLOCK_SIZE n)).2
    rw [ivfcSize, Nat.succ_mul]
    omega

/-- The levels leave room for a block in the sums of the hash loops. -/
lemma le_romfsSectionSize (n : ℕ) : 0x10000 ≤ romfsSectionSize n := by
  have hlevels := le_ivfcSize 5 (paddedSize IVFC_HASH_BLOCK_SIZE n)
  have hpadded := (@le_paddedSize 0x200
    (ivfcSize 5 (paddedSize IVFC_HASH_BLOCK_SIZE n))).1
  have hblock : 5 * IVFC_HASH_BLOCK_SIZE = 0x14000 := rfl
  unfold romfsSectionSize
  omega

lemma le_pfs0SectionSize : pfs0Size files ≤ pfs0SectionSize block files := by
  have hinner := (@le_paddedSize 0x200
    (paddedSize 0x200 (hashTableSize block (pfs0Size files)) + pfs0Size files)).1
  unfold pfs0SectionSize
  omega

lemma dvd_padded (d : Bytes) : 0x200 ∣ (padded 0x200 d).length := by
  rw [length_padded]
  exact dvd_padding _ (by decide)

/-- The next section starts where the last one ended. -/
lemma sectionStart_withSection {h : Header} {index : Fin 4} {start stop : ℕ} {fsHeader : FsHeader}
    (hindex : index ≠ 0) (hdvd : 0x200 ∣ stop) (hstop : stop < 2 ^ 32) :
    sectionStart (withSection sha256 h (index - 1) start stop fsHeader) index = stop := by
  have hentry : ((withSection sha256 h (index - 1) start stop fsHeader).fsTable
      (index - 1)).mediaEndOffset = .ofNat (stop / 0x200) := by
    simp [withSection, hashFsHeader, writeNcaSection]
  have hmedia : (UInt32.ofNat (stop / 0x200)).toNat = stop / 0x200 :=
    UInt32.toNat_ofNat_of_lt' (by change _ < 2 ^ 32; omega)
  have hfactor : (0x200 : UInt32).toNat = 0x200 := rfl
  rw [sectionStart, if_neg hindex, hentry, UInt32.toNat_mul, hmedia, hfactor,
    Nat.div_mul_cancel hdvd, Nat.mod_eq_of_lt hstop]

/-- What the header says of a section. -/
structure Recorded (sha256 : Bytes → Hash) (h : Header) (index : Fin 4) (start stop : ℕ)
    (fsHeader : FsHeader) : Prop where
  entry : h.fsTable index = ⟨.ofNat (start / 0x200), .ofNat (stop / 0x200), 0x1⟩
  fsHeader_eq : h.fsHeader index = fsHeader
  hash_eq : h.fsHeaderHash index = sha256 fsHeader.bytes

/-- A section as the header records it and the file holds it. -/
structure Placed (sha256 : Bytes → Hash) (h : Header) (data : Bytes) (index : Fin 4) (start : ℕ)
    (bytes : Bytes) (fsHeader : FsHeader) : Prop
    extends Recorded sha256 h index start (start + bytes.length) fsHeader where
  start_dvd : 0x200 ∣ start
  bytes_dvd : 0x200 ∣ bytes.length
  fits : start + bytes.length < 2 ^ 32
  content : slice data start bytes.length = bytes

namespace Placed

variable {h : Header} {data bytes : Bytes} {index : Fin 4} {start : ℕ} {fsHeader : FsHeader}

lemma mediaStart_eq (p : Placed sha256 h data index start bytes fsHeader) :
    mediaStart h index = start := by
  have hfits := p.fits
  have hmedia : (UInt32.ofNat (start / 0x200)).toNat = start / 0x200 :=
    UInt32.toNat_ofNat_of_lt' (by change _ < 2 ^ 32; omega)
  rw [mediaStart, p.entry, hmedia, Nat.div_mul_cancel p.start_dvd]

lemma mediaStop_eq (p : Placed sha256 h data index start bytes fsHeader) :
    mediaStop h index = start + bytes.length := by
  have hfits := p.fits
  have hmedia : (UInt32.ofNat ((start + bytes.length) / 0x200)).toNat =
      (start + bytes.length) / 0x200 :=
    UInt32.toNat_ofNat_of_lt' (by change _ < 2 ^ 32; omega)
  rw [mediaStop, p.entry, hmedia, Nat.div_mul_cancel (Nat.dvd_add p.start_dvd p.bytes_dvd)]

lemma nonempty (p : Placed sha256 h data index start bytes fsHeader) (hbytes : 0 < bytes.length) :
    mediaStart h index < mediaStop h index := by
  rw [p.mediaStart_eq, p.mediaStop_eq]
  omega

lemma sectionBytes_eq (p : Placed sha256 h data index start bytes fsHeader) :
    sectionBytes h data index = bytes := by
  rw [sectionBytes, p.mediaStart_eq, p.mediaStop_eq, Nat.add_sub_cancel_left]
  exact p.content

lemma hash (p : Placed sha256 h data index start bytes fsHeader) :
    h.fsHeaderHash index = sha256 (h.fsHeader index).bytes := by
  rw [p.hash_eq, p.fsHeader_eq]

end Placed

/-- The file and its header after one, two and three sections. -/
def exefsData (sha256 : Bytes → Hash) (exefs : FileEntries) : Bytes :=
  ({} : Header).bytes ++ pfs0Section sha256 0x10000 exefs

def romfsData (sha256 : Bytes → Hash) (exefs : FileEntries) (image : Bytes) : Bytes :=
  exefsData sha256 exefs ++ romfsSection sha256 image

def logoData (sha256 : Bytes → Hash) (exefs : FileEntries) (image : Bytes) (logo : FileEntries) :
    Bytes :=
  romfsData sha256 exefs image ++ pfs0Section sha256 0x1000 logo

def exefsHeader (sha256 : Bytes → Hash) (exefs : FileEntries) : Header :=
  withSection sha256 {} 0 ({} : Header).bytes.length (exefsData sha256 exefs).length
    (pfs0FsHeader sha256 0x10000 exefs)

def romfsHeader (sha256 : Bytes → Hash) (exefs : FileEntries) (image : Bytes) : Header :=
  withSection sha256 (exefsHeader sha256 exefs) 1 (exefsData sha256 exefs).length
    (romfsData sha256 exefs image).length (romfsFsHeader sha256 image)

def logoHeader (sha256 : Bytes → Hash) (exefs : FileEntries) (image : Bytes) (logo : FileEntries) :
    Header :=
  withSection sha256 (romfsHeader sha256 exefs image) 2 (romfsData sha256 exefs image).length
    (logoData sha256 exefs image logo).length (pfs0FsHeader sha256 0x1000 logo)

variable {exefs logo : FileEntries}

lemma length_emptyHeader : ({} : Header).bytes.length = 0xC00 := length_header {}

lemma length_exefsData :
    (exefsData sha256 exefs).length = 0xC00 + pfs0SectionSize 0x10000 exefs := by
  rw [exefsData, List.length_append, length_emptyHeader, length_pfs0Section]

lemma length_romfsData : (romfsData sha256 exefs image).length =
    0xC00 + pfs0SectionSize 0x10000 exefs + romfsSectionSize image.length := by
  rw [romfsData, List.length_append, length_exefsData, length_romfsSection]

lemma length_logoData : (logoData sha256 exefs image logo).length =
    0xC00 + pfs0SectionSize 0x10000 exefs + romfsSectionSize image.length +
      pfs0SectionSize 0x1000 logo := by
  rw [logoData, List.length_append, length_romfsData, length_pfs0Section]

lemma dvd_pfs0SectionSize : 0x200 ∣ pfs0SectionSize block files := dvd_padding _ (by decide)

lemma dvd_romfsSectionSize (n : ℕ) : 0x200 ∣ romfsSectionSize n := dvd_padding _ (by decide)

lemma dvd_exefsData : 0x200 ∣ (exefsData sha256 exefs).length := by
  rw [length_exefsData]
  exact Nat.dvd_add (by decide) dvd_pfs0SectionSize

lemma dvd_romfsData : 0x200 ∣ (romfsData sha256 exefs image).length := by
  rw [length_romfsData, ← @length_exefsData sha256 _]
  exact Nat.dvd_add dvd_exefsData (dvd_romfsSectionSize _)

lemma writeExefs_eq (hsize : programNcaSize exefs image.length logo < 2 ^ 32) :
    writeNcaPfs0 sha256 {} 0 exefs PFS0_EXEFS_HASH_BLOCK_SIZE (filled ({} : Header).bytes) =
      some (exefsHeader sha256 exefs, filled (exefsData sha256 exefs)) := by
  have hexefs := @le_pfs0SectionSize 0x10000 exefs
  have hromfs := le_romfsSectionSize image.length
  have hblock : PFS0_EXEFS_HASH_BLOCK_SIZE.toNat = 0x10000 := rfl
  unfold programNcaSize at hsize
  rw [writeNcaPfs0_eq]
  · rfl
  · rw [length_emptyHeader]
    decide
  · rfl
  · exact length_emptyHeader.symm
  · decide
  · rw [length_buildPfs0_size, hblock]
    omega

lemma writeRomfs_eq (hsize : programNcaSize exefs image.length logo < 2 ^ 32) :
    writeNcaRomfs sha256 (exefsHeader sha256 exefs) 1 image (filled (exefsData sha256 exefs)) =
      some (romfsHeader sha256 exefs image, filled (romfsData sha256 exefs image)) := by
  unfold programNcaSize at hsize
  rw [writeNcaRomfs_eq]
  · rfl
  · exact dvd_exefsData
  · rfl
  · refine sectionStart_withSection (by decide) dvd_exefsData ?_
    rw [length_exefsData]
    omega
  · rw [length_romfsSection]
    omega

lemma writeLogo_eq (hlogo : hasLogo logo = true)
    (hsize : programNcaSize exefs image.length logo < 2 ^ 32) :
    writeNcaPfs0 sha256 (romfsHeader sha256 exefs image) 2 logo PFS0_LOGO_HASH_BLOCK_SIZE
        (filled (romfsData sha256 exefs image)) =
      some (logoHeader sha256 exefs image logo, filled (logoData sha256 exefs image logo)) := by
  have hsmall := @le_pfs0SectionSize 0x1000 logo
  have hromfs := le_romfsSectionSize image.length
  have hblock : PFS0_LOGO_HASH_BLOCK_SIZE.toNat = 0x1000 := rfl
  rw [programNcaSize, if_pos hlogo] at hsize
  rw [writeNcaPfs0_eq]
  · rfl
  · exact dvd_romfsData
  · rfl
  · refine sectionStart_withSection (by decide) dvd_romfsData ?_
    rw [length_romfsData]
    omega
  · decide
  · rw [length_buildPfs0_size, hblock]
    omega

/-- The bytes behind the header. -/
def programSections (sha256 : Bytes → Hash) (exefs : FileEntries) (image : Bytes)
    (logo : FileEntries) : Bytes :=
  pfs0Section sha256 0x10000 exefs ++ (romfsSection sha256 image ++
    if hasLogo logo then pfs0Section sha256 0x1000 logo else [])

lemma length_programSections : 0xC00 + (programSections sha256 exefs image logo).length =
    programNcaSize exefs image.length logo := by
  unfold programSections programNcaSize
  rw [List.length_append, List.length_append, length_pfs0Section, length_romfsSection]
  split_ifs
  · rw [length_pfs0Section]
    omega
  · rw [List.length_nil]
    omega

def programHeader (sha256 : Bytes → Hash) (exefs : FileEntries) (image : Bytes)
    (logo : FileEntries) : Header :=
  if hasLogo logo then logoHeader sha256 exefs image logo else romfsHeader sha256 exefs image

lemma createProgramNca_eq (tid : UInt64)
    (hsize : programNcaSize exefs image.length logo < 2 ^ 32) :
    createProgramNca sha256 tid exefs image logo =
      some (finalizeNcaHeader (programHeader sha256 exefs image logo) tid ContentType_Program
        (filled (({} : Header).bytes ++ programSections sha256 exefs image logo))) := by
  unfold createProgramNca programHeader programSections
  dsimp only
  rw [write_empty, writeExefs_eq hsize, Option.bind_eq_bind, Option.bind_some]
  dsimp only
  rw [writeRomfs_eq hsize, Option.bind_some]
  dsimp only
  split_ifs with hlogo
  · rw [writeLogo_eq hlogo hsize, Option.bind_some, logoData, romfsData, exefsData,
      List.append_assoc, List.append_assoc]
    rfl
  · rw [Option.bind_some, romfsData, exefsData, List.append_assoc, List.append_nil]
    rfl

lemma intact_of_placed {h : Header} {data : Bytes}
    (hsize : programNcaSize exefs image.length logo < 2 ^ 32)
    (hdata : data = h.bytes ++ programSections sha256 exefs image logo)
    (hlength : h.size.toNat = data.length)
    (hexefs : Placed sha256 h data 0 0xC00 (pfs0Section sha256 0x10000 exefs)
      (pfs0FsHeader sha256 0x10000 exefs))
    (hromfs : Placed sha256 h data 1 (0xC00 + pfs0SectionSize 0x10000 exefs)
      (romfsSection sha256 image) (romfsFsHeader sha256 image))
    (hlogo : hasLogo logo = true → Placed sha256 h data 2
      (0xC00 + pfs0SectionSize 0x10000 exefs + romfsSectionSize image.length)
      (pfs0Section sha256 0x1000 logo) (pfs0FsHeader sha256 0x1000 logo))
    (hnames : ∀ e ∈ exefs ++ logo, 0 ∉ e.name) : Intact sha256 h data exefs image logo := by
  have hend : data.length = programNcaSize exefs image.length logo := by
    rw [hdata, List.length_append, length_header, length_programSections]
  have hsections : (pfs0Section sha256 0x10000 exefs).length < 2 ^ 32 ∧
      (romfsSection sha256 image).length < 2 ^ 32 := by
    rw [length_pfs0Section, length_romfsSection]
    unfold programNcaSize at hsize
    omega
  have hstop : mediaStop h 0 = mediaStart h 1 := by
    rw [hexefs.mediaStop_eq, hromfs.mediaStart_eq, length_pfs0Section]
  have hstop' : hasLogo logo = true → mediaStop h 1 = mediaStart h 2 := by
    intro hcase
    rw [hromfs.mediaStop_eq, (hlogo hcase).mediaStart_eq, length_romfsSection]
  have hexefsNonempty := hexefs.nonempty (length_padded_pos _)
  have hromfsNonempty := hromfs.nonempty (length_padded_pos _)
  refine ⟨hlength, ?_, hexefs.mediaStart_eq, ?_, ?_, ?_, ?_, ?_, ?_, ?_⟩
  · rw [hdata]
    exact slice_front (length_header h)
  · unfold used
    split_ifs with hcase
    · simp [hexefsNonempty, hromfsNonempty, (hlogo hcase).nonempty (length_padded_pos _)]
    · simp [hexefsNonempty, hromfsNonempty]
  · unfold used
    split_ifs with hcase
    · simp [hstop, hstop' hcase]
    · simp [hstop]
  · rw [hlength, hend]
    unfold used programNcaSize
    split_ifs with hcase
    · simp [(hlogo hcase).mediaStop_eq, length_pfs0Section]
    · simp [hromfs.mediaStop_eq, length_romfsSection]
  · unfold used
    split_ifs with hcase
    · simp [hexefs.hash, hromfs.hash, (hlogo hcase).hash]
    · simp [hexefs.hash, hromfs.hash]
  · rw [hexefs.fsHeader_eq, hexefs.sectionBytes_eq]
    exact pfs0Data_section hsections.1 fun e he => hnames e (List.mem_append_left _ he)
  · rw [hromfs.fsHeader_eq, hromfs.sectionBytes_eq]
    exact ⟨_, rfl, romfsData_section hsections.2⟩
  · intro hcase
    rw [(hlogo hcase).fsHeader_eq, (hlogo hcase).sectionBytes_eq]
    refine pfs0Data_section ?_ fun e he => hnames e (List.mem_append_right _ he)
    have hfits := (hlogo hcase).fits
    change (pfs0Section sha256 0x1000 logo).length < 2 ^ 32
    omega

/-- The header is written over the first bytes, and keeps what it says of the sections. -/
lemma finalize_spec {h : Header} {tid : UInt64} {sections : Bytes} :
    let final := finalizeNcaHeader h tid ContentType_Program
      (filled (({} : Header).bytes ++ sections))
    final.2.buf = final.1.bytes ++ sections ∧ final.1.fsTable = h.fsTable ∧
      final.1.fsHeader = h.fsHeader ∧ final.1.fsHeaderHash = h.fsHeaderHash ∧
      final.1.size = .ofNat (0xC00 + sections.length) := by
  refine ⟨overwrite_front ?_, rfl, rfl, rfl, ?_⟩
  · rw [length_header, length_header]
  · rw [← length_emptyHeader, ← List.length_append]
    rfl

/-- Where the sections lie in a file with a whole header. -/
lemma slice_programSections {head : Bytes} (hhead : head.length = 0xC00) :
    let data := head ++ programSections sha256 exefs image logo
    slice data 0xC00 (pfs0Section sha256 0x10000 exefs).length =
        pfs0Section sha256 0x10000 exefs ∧
      slice data (0xC00 + pfs0SectionSize 0x10000 exefs) (romfsSection sha256 image).length =
        romfsSection sha256 image ∧
      (hasLogo logo = true → slice data
        (0xC00 + pfs0SectionSize 0x10000 exefs + romfsSectionSize image.length)
        (pfs0Section sha256 0x1000 logo).length = pfs0Section sha256 0x1000 logo) := by
  dsimp only
  unfold programSections
  refine ⟨slice_middle hhead rfl, ?_, fun hcase => ?_⟩
  · rw [← List.append_assoc]
    refine slice_middle ?_ rfl
    rw [List.length_append, hhead, length_pfs0Section]
  · rw [if_pos hcase, ← List.append_assoc, ← List.append_assoc]
    refine slice_suffix ?_ rfl
    rw [List.length_append, List.length_append, hhead, length_pfs0Section, length_romfsSection]

lemma recorded_withSection {h : Header} {index : Fin 4} {start stop : ℕ} {fsHeader : FsHeader} :
    Recorded sha256 (withSection sha256 h index start stop fsHeader) index start stop fsHeader := by
  constructor <;> simp [withSection, hashFsHeader, writeNcaSection]

/-- Another section does not change the record. -/
lemma Recorded.withSection {h : Header} {index other : Fin 4} {start stop start' stop' : ℕ}
    {fsHeader fsHeader' : FsHeader} (r : Recorded sha256 h index start stop fsHeader)
    (hne : index ≠ other) : Recorded sha256 (withSection sha256 h other start' stop' fsHeader')
      index start stop fsHeader := by
  constructor
  · exact (Function.update_of_ne hne _ _).trans r.entry
  · exact (Function.update_of_ne hne _ _).trans r.fsHeader_eq
  · exact (Function.update_of_ne hne _ _).trans r.hash_eq

lemma recorded_programHeader :
    Recorded sha256 (programHeader sha256 exefs image logo) 0 0xC00
        (0xC00 + (pfs0Section sha256 0x10000 exefs).length) (pfs0FsHeader sha256 0x10000 exefs) ∧
      Recorded sha256 (programHeader sha256 exefs image logo) 1
        (0xC00 + pfs0SectionSize 0x10000 exefs)
        (0xC00 + pfs0SectionSize 0x10000 exefs + (romfsSection sha256 image).length)
        (romfsFsHeader sha256 image) ∧
      (hasLogo logo = true → Recorded sha256 (programHeader sha256 exefs image logo) 2
        (0xC00 + pfs0SectionSize 0x10000 exefs + romfsSectionSize image.length)
        (0xC00 + pfs0SectionSize 0x10000 exefs + romfsSectionSize image.length +
          (pfs0Section sha256 0x1000 logo).length) (pfs0FsHeader sha256 0x1000 logo)) := by
  have hexefs : Recorded sha256 (exefsHeader sha256 exefs) 0 0xC00
      (0xC00 + (pfs0Section sha256 0x10000 exefs).length)
      (pfs0FsHeader sha256 0x10000 exefs) := by
    rw [exefsHeader, length_emptyHeader, length_exefsData, length_pfs0Section]
    exact recorded_withSection
  have hromfs : Recorded sha256 (romfsHeader sha256 exefs image) 1
      (0xC00 + pfs0SectionSize 0x10000 exefs)
      (0xC00 + pfs0SectionSize 0x10000 exefs + (romfsSection sha256 image).length)
      (romfsFsHeader sha256 image) := by
    rw [romfsHeader, length_exefsData, length_romfsData, length_romfsSection]
    exact recorded_withSection
  have hlogo : Recorded sha256 (logoHeader sha256 exefs image logo) 2
      (0xC00 + pfs0SectionSize 0x10000 exefs + romfsSectionSize image.length)
      (0xC00 + pfs0SectionSize 0x10000 exefs + romfsSectionSize image.length +
        (pfs0Section sha256 0x1000 logo).length) (pfs0FsHeader sha256 0x1000 logo) := by
    rw [logoHeader, length_romfsData, length_logoData, length_pfs0Section]
    exact recorded_withSection
  have hexefs' : Recorded sha256 (romfsHeader sha256 exefs image) 0 _ _ _ :=
    hexefs.withSection (by decide)
  unfold programHeader
  split_ifs with hcase
  · exact ⟨hexefs'.withSection (by decide), hromfs.withSection (by decide), fun _ => hlogo⟩
  · exact ⟨hexefs', hromfs, fun h => absurd h hcase⟩

lemma createProgramNca_intact (tid : UInt64)
    (hsize : programNcaSize exefs image.length logo < 2 ^ 32)
    (hnames : ∀ e ∈ exefs ++ logo, 0 ∉ e.name) : ∃ h buf,
    createProgramNca sha256 tid exefs image logo = some (h, buf) ∧
      buf.buf.length = programNcaSize exefs image.length logo ∧
      Intact sha256 h buf.buf exefs image logo := by
  have hfits := hsize
  unfold programNcaSize at hfits
  have hexefsDvd := @dvd_pfs0SectionSize 0x10000 exefs
  have hlogoDvd := @dvd_pfs0SectionSize 0x1000 logo
  have hromfsDvd := dvd_romfsSectionSize image.length
  obtain ⟨hexefs, hromfs, hlogo⟩ := @recorded_programHeader sha256 image exefs logo
  obtain ⟨hbuf, htable, hheader, hhash, hfinal⟩ := @finalize_spec
    (programHeader sha256 exefs image logo) tid (programSections sha256 exefs image logo)
  rw [createProgramNca_eq tid hsize]
  generalize finalizeNcaHeader (programHeader sha256 exefs image logo) tid ContentType_Program
    (filled (({} : Header).bytes ++ programSections sha256 exefs image logo)) = final at *
  obtain ⟨h, buf⟩ := final
  dsimp only at hbuf htable hheader hhash hfinal
  have hlength : buf.buf.length = programNcaSize exefs image.length logo := by
    rw [hbuf, List.length_append, length_header, length_programSections]
  have hslices := @slice_programSections sha256 image exefs logo _ (length_header h)
  rw [← hbuf] at hslices
  have hrecorded : ∀ {index start stop fsHeader},
      Recorded sha256 (programHeader sha256 exefs image logo) index start stop fsHeader →
        Recorded sha256 h index start stop fsHeader := by
    intro index start stop fsHeader r
    exact ⟨htable ▸ r.entry, hheader ▸ r.fsHeader_eq, hhash ▸ r.hash_eq⟩
  refine ⟨h, buf, rfl, hlength, intact_of_placed hsize hbuf ?_ ?_ ?_ ?_ hnames⟩
  · rw [hfinal, length_programSections, hlength, toNat_ofNat64 hsize]
  · refine ⟨hrecorded hexefs, by decide, dvd_padded _, ?_, hslices.1⟩
    rw [length_pfs0Section]
    omega
  · refine ⟨hrecorded hromfs, by omega, dvd_padded _, ?_, hslices.2.1⟩
    rw [length_romfsSection]
    omega
  · intro hcase
    rw [if_pos hcase] at hfits
    refine ⟨hrecorded (hlogo hcase), by omega, dvd_padded _, ?_, hslices.2.2 hcase⟩
    rw [length_pfs0Section]
    omega

/-- An NCA below four gigabytes holds its sections one after the other, and a reader gets back
the files, the image and every hash. -/
theorem program_nca_intact (sha256 : Bytes → Hash) (tid : UInt64)
    (exefs logo : List (CString × Bytes)) (image : Bytes)
    (hsize : programNcaSize (addFileEntries exefs) image.length (addFileEntries logo) < 2 ^ 32) :
    ∃ h buf, createProgramNca sha256 tid (addFileEntries exefs) image (addFileEntries logo) =
        some (h, buf) ∧
      buf.buf.length =
        programNcaSize (addFileEntries exefs) image.length (addFileEntries logo) ∧
      Intact sha256 h buf.buf (addFileEntries exefs) image (addFileEntries logo) := by
  apply createProgramNca_intact tid hsize
  rw [addFileEntries_map, addFileEntries_map, ← List.map_append, List.forall_mem_map]
  exact fun file _ => file.1.2

def mainFile : List (CString × Bytes) := [(⟨[109, 97, 105, 110], by decide⟩, [1, 2, 3])]

def noSha256 : Bytes → Hash := fun _ => noHash

theorem program_nca_intact_main : ∃ h buf,
    createProgramNca noSha256 1 (addFileEntries mainFile) [7] (addFileEntries []) =
        some (h, buf) ∧
      buf.buf.length = programNcaSize (addFileEntries mainFile) 1 (addFileEntries []) ∧
      Intact noSha256 h buf.buf (addFileEntries mainFile) [7] (addFileEntries []) :=
  program_nca_intact noSha256 1 mainFile [] [7] (by decide +kernel)

end

end ArtemisSwitch.Forwarder
