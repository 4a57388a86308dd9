import ArtemisSwitch.RomfsTables
import Mathlib.Data.List.Find
import Mathlib.Data.List.GetD

/-!
# What a RomFS image gives back

A reader loads the tables and follows the links between the records.
-/

namespace ArtemisSwitch.Forwarder
open ByteLayout LinkedCells

variable {entries : FileEntries}

/-! ## The reader -/

def readFileEntry (table : Bytes) (off : ℕ) : RomfsFileEntry where
  parent := field table off 4
  sibling := field table (off + 4) 4
  dataOff := field table (off + 8) 8
  dataSize := field table (off + 16) 8
  nextHash := field table (off + 24) 4
  name := slice table (off + 32) (field table (off + 28) 4)

/-- Every number fits into its field. -/
structure RomfsFileEntry.Fits (e : RomfsFileEntry) : Prop where
  parent : e.parent < 256 ^ 4
  sibling : e.sibling < 256 ^ 4
  dataOff : e.dataOff < 256 ^ 8
  dataSize : e.dataSize < 256 ^ 8
  nextHash : e.nextHash < 256 ^ 4
  name : e.name.length < 256 ^ 4

lemma readFileEntry_eq {table : Bytes} {off : ℕ} {e : RomfsFileEntry} (hfits : e.Fits)
    (h : slice table off e.bytes.length = e.bytes) : readFileEntry table off = e := by
  have hlength := e.length_bytes
  have hcount : e.fields.length = 6 := rfl
  have hname : slice table (off + 32) e.name.length = e.name := by
    rw [← slice_slice (n := e.bytes.length) (by omega), h, e.bytes_eq]
    exact slice_suffix (length_packed _) rfl
  rw [e.bytes_eq] at h
  have hparent : field table off 4 = e.parent :=
    field_packed (i := 0) h (by omega) hfits.parent
  have hsibling : field table (off + 4) 4 = e.sibling :=
    field_packed (i := 1) h (by omega) hfits.sibling
  have hdataOff : field table (off + 8) 8 = e.dataOff :=
    field_packed (i := 2) h (by omega) hfits.dataOff
  have hdataSize : field table (off + 16) 8 = e.dataSize :=
    field_packed (i := 3) h (by omega) hfits.dataSize
  have hnextHash : field table (off + 24) 4 = e.nextHash :=
    field_packed (i := 4) h (by omega) hfits.nextHash
  have hnameLen : field table (off + 28) 4 = e.name.length :=
    field_packed (i := 5) h (by omega) hfits.name
  unfold readFileEntry
  rw [hparent, hsibling, hdataOff, hdataSize, hnextHash, hnameLen, hname]

def readHeader (image : Bytes) : RomfsHeader where
  dirHashTableOff := field image 8 8
  dirHashTableSize := field image 16 8
  dirTableOff := field image 24 8
  dirTableSize := field image 32 8
  fileHashTableOff := field image 40 8
  fileHashTableSize := field image 48 8
  fileTableOff := field image 56 8
  fileTableSize := field image 64 8
  fileDataOff := field image 72 8

/-- The record at an offset, with the bytes of its file. -/
def readFile (image : Bytes) (off : ℕ) : RomfsFileEntry × Bytes :=
  let h := readHeader image
  let e := readFileEntry (slice image h.fileTableOff h.fileTableSize) off
  (e, slice image (h.fileDataOff + e.dataOff) e.dataSize)

/-- No chain without a loop has more records than the table has bytes. -/
def chainFrom (image : Bytes) (link : RomfsFileEntry → ℕ) (off : ℕ) : Option (List ℕ) :=
  follow (fun off => pointer (link (readFile image off).1)) (readHeader image).fileTableSize
    (pointer off)

/-- The files of the root: its `childFile`, and on through the siblings. -/
def listFiles (image : Bytes) : Option (List (Bytes × Bytes)) :=
  let h := readHeader image
  let childFile := field (slice image h.dirTableOff h.dirTableSize) 12 4
  (chainFrom image RomfsFileEntry.sibling childFile).map fun offs => offs.map fun off =>
    ((readFile image off).1.name, (readFile image off).2)

/-- The file of a name in the root: the bucket of its hash, and on through `nextHash`. -/
def findFile (image : Bytes) (name : Bytes) : Option (Option Bytes) :=
  let h := readHeader image
  let slot := (calcPathHash 0 name 0 name.length).toNat % (h.fileHashTableSize / 4)
  let head := field (slice image h.fileHashTableOff h.fileHashTableSize) (4 * slot) 4
  (chainFrom image RomfsFileEntry.nextHash head).map fun offs =>
    (offs.find? fun off =>
      (readFile image off).1.parent = 0 ∧ (readFile image off).1.name = name).map fun off =>
        (readFile image off).2

/-- The names come back without their slash. -/
def pathName (entry : FileEntry) : Bytes := entry.name.drop 1

/-- A reader finds these files and no others, with their contents. -/
structure RoundTrips (image : Bytes) (entries : FileEntries) : Prop where
  list : listFiles image = some (entries.map fun e => (pathName e, e.data))
  find : ∀ name, findFile image name =
    some ((entries.find? fun e => pathName e = name).map FileEntry.data)

/-! ## What the reader finds -/

def RomfsHeader.fields (h : RomfsHeader) : List (ℕ × ℕ) :=
  [(8, 80), (8, h.dirHashTableOff), (8, h.dirHashTableSize), (8, h.dirTableOff),
    (8, h.dirTableSize), (8, h.fileHashTableOff), (8, h.fileHashTableSize), (8, h.fileTableOff),
    (8, h.fileTableSize), (8, h.fileDataOff)]

lemma RomfsHeader.bytes_eq (h : RomfsHeader) : h.bytes = packed h.fields ++ [] := by
  simp [RomfsHeader.bytes, packed, RomfsHeader.fields]

def RomfsDirEntry.fields (e : RomfsDirEntry) : List (ℕ × ℕ) :=
  [(4, e.parent), (4, e.sibling), (4, e.childDir), (4, e.childFile), (4, e.nextHash), (4, 0)]

lemma RomfsDirEntry.bytes_eq (e : RomfsDirEntry) : e.bytes = packed e.fields ++ [] := by
  simp [RomfsDirEntry.bytes, packed, RomfsDirEntry.fields]

/-- `buildRomfs` returns the image with a padding. -/
abbrev romfsImage (entries : FileEntries) : Bytes := padded IVFC_HASH_BLOCK_SIZE (imageOf entries)

lemma slice_romfsImage {off n : ℕ} (h : off + n ≤ (imageOf entries).length) :
    slice (romfsImage entries) off n = slice (imageOf entries) off n :=
  slice_append_left h

/-- The file table lies last. -/
lemma fileTable_le (entries : FileEntries) :
    (headerOf entries).fileTableOff + fileTableSize entries ≤ (imageOf entries).length := by
  have hlast := @tableItems_le entries ((headerOf entries).fileTableOff, fileTable entries)
    (by simp [tableItems])
  rwa [length_fileTable] at hlast

lemma exists_file {i : ℕ} (hi : i ∈ visitOrder entries.length) :
    ∃ f ∈ filesOf entries, f.2 = i := by
  rw [← map_snd_filesOf] at hi
  exact List.mem_map.mp hi

lemma mem_visitOrder_of_file {f : FileEntry × ℕ} (hf : f ∈ filesOf entries) :
    f.2 ∈ visitOrder entries.length := by
  rw [← map_snd_filesOf]
  exact List.mem_map_of_mem hf

lemma sibling_mem {i j : ℕ} (hi : i ∈ visitOrder entries.length)
    (hj : ((partitionOf entries).contexts i).sibling = some j) :
    j ∈ visitOrder entries.length := by
  rw [(laid_partitionOf entries).sibling] at hj
  exact (visited_romfsVisitDir entries).children.mem hi hj

lemma data_le {f : FileEntry × ℕ} (hf : f ∈ filesOf entries) :
    ((partitionOf entries).contexts f.2).offset + ((partitionOf entries).contexts f.2).size + 0x200
      ≤ (imageOf entries).length := by
  have hwithin := ((laid_partitionOf entries).dataWithin f hf).2
  have hpartition := partition_le entries
  have htable := @tableItems_le entries
    ((headerOf entries).dirHashTableOff, tableBytes dirHashTable) (by simp [tableItems])
  omega

/-- The bytes that the reader takes for the file of a context. -/
def stored (entries : FileEntries) (f : FileEntry × ℕ) : Bytes :=
  slice (imageOf entries) (((partitionOf entries).contexts f.2).offset + 0x200)
    ((partitionOf entries).contexts f.2).size

lemma slice_table {item : ℕ × Bytes} (h : item ∈ tableItems entries) :
    slice (romfsImage entries) item.1 item.2.length = item.2 :=
  (slice_romfsImage (tableItems_le h)).trans (slice_tableItems h)

lemma offsets_eq (entries : FileEntries) :
    (visitOrder entries.length).map (fun i => ((partitionOf entries).contexts i).entryOffset) =
      (filesOf entries).map fun f => ((partitionOf entries).contexts f.2).entryOffset := by
  rw [← map_snd_filesOf, List.map_map]
  rfl

lemma length_filesOf_le (entries : FileEntries) :
    (filesOf entries).length ≤ fileTableSize entries := by
  have hlength : (filesOf entries).length = entries.length := by
    rw [filesOf, List.length_zip, length_visitOrder, Nat.min_self]
  have hsum : (entries.map fun _ => 1).sum ≤ (entries.map entrySize).sum :=
    List.sum_le_sum fun e _ => by unfold entrySize; omega
  rw [hlength, fileTableSize]
  simpa using hsum

lemma eq_of_pathName (hnames : (entries.map pathName).Nodup) {f g : FileEntry × ℕ}
    (hf : f ∈ filesOf entries) (hg : g ∈ filesOf entries) (h : pathName f.1 = pathName g.1) :
    f = g := by
  rw [← map_fst_filesOf entries, List.map_map] at hnames
  exact List.inj_on_of_nodup_map hnames hf hg h

lemma le_nextCount (count : ℕ) : count ≤ nextCount count := by
  fun_induction nextCount count with
  | case1 count hfactor ih => exact (Nat.le_succ count).trans ih
  | case2 count hfactor => exact Nat.le_refl count

lemma fileCount_pos (entries : FileEntries) : 0 < fileCount entries := by
  unfold fileCount romfsGetHashTableCount
  split_ifs with hfew hmedium
  · omega
  · exact Nat.lt_of_lt_of_le Nat.one_pos Nat.right_le_or
  · have hle := le_nextCount entries.length
    omega

/-- The bucket that the reader computes from a name. -/
def slotOf (entries : FileEntries) (name : Bytes) : ℕ :=
  (calcPathHash 0 name 0 name.length).toNat % fileCount entries

lemma bucket_eq (entry : FileEntry) :
    bucket (fileCount entries) entry.name = slotOf entries (pathName entry) := by
  have hslice : slice entry.name 1 (entry.name.length - 1) =
      slice (pathName entry) 0 (pathName entry).length := by
    unfold slice pathName
    rw [List.drop_zero, List.take_length, List.length_drop.symm, List.take_length]
  unfold bucket slotOf calcPathHash
  rw [hslice]

/-- The files of a bucket, the last one first. -/
def bucketFiles (entries : FileEntries) (slot : ℕ) : List (FileEntry × ℕ) :=
  ((filesOf entries).filter fun f => bucket (fileCount entries) f.1.name = slot).reverse

/-- A name that only one element has is found there. -/
lemma find?_eq_of_unique {α : Type*} {l : List α} {p : α → Bool} {x : α} (hx : x ∈ l)
    (hp : p x = true) (h : ∀ y ∈ l, p y = true → y = x) : l.find? p = some x := by
  cases hfind : l.find? p with
  | none => exact absurd hp (List.find?_eq_none.mp hfind x hx)
  | some y => rw [h y (List.mem_of_find?_eq_some hfind) (List.find?_some hfind)]

/-- In its bucket, a name leads to the file that has it. -/
lemma find_bucket (hnames : (entries.map pathName).Nodup) (name : Bytes) :
    (bucketFiles entries (slotOf entries name)).find? (fun f => pathName f.1 = name) =
      (filesOf entries).find? fun f => pathName f.1 = name := by
  have hmem : ∀ f, f ∈ bucketFiles entries (slotOf entries name) ↔ f ∈ filesOf entries ∧
      slotOf entries (pathName f.1) = slotOf entries name := by
    intro f
    rw [bucketFiles, List.mem_reverse, List.mem_filter, decide_eq_true_eq, bucket_eq]
  cases hfind : (filesOf entries).find? fun f => pathName f.1 = name with
  | none =>
    rw [List.find?_eq_none] at hfind ⊢
    exact fun f hf => hfind f ((hmem f).mp hf).1
  | some f =>
    have hf := List.mem_of_find?_eq_some hfind
    have hname : pathName f.1 = name := by simpa using List.find?_some hfind
    refine find?_eq_of_unique ((hmem f).mpr ⟨hf, by rw [hname]⟩) (by simpa using hname) ?_
    intro g hg hgname
    have hgname : pathName g.1 = name := by simpa using hgname
    exact eq_of_pathName hnames ((hmem g).mp hg).1 hf (hgname.trans hname.symm)

section
variable (hsize : (imageOf entries).length < 2 ^ 32)
include hsize

lemma readHeader_eq : readHeader (romfsImage entries) = headerOf entries := by
  have hend := fileTable_le entries
  have hpartition := partition_le entries
  have hdirTable : (headerOf entries).dirTableOff = (headerOf entries).dirHashTableOff + 12 := rfl
  have hfileHash : (headerOf entries).fileHashTableOff = (headerOf entries).dirTableOff + 24 := rfl
  have htable : (headerOf entries).fileTableOff =
      (headerOf entries).fileHashTableOff + (headerOf entries).fileHashTableSize := rfl
  have hwhole : slice (romfsImage entries) 0
      (packed (headerOf entries).fields ++ []).length = packed (headerOf entries).fields ++ [] := by
    rw [← RomfsHeader.bytes_eq, slice_romfsImage, slice_header]
    rw [length_romfsHeader]
    omega
  have hcount : (headerOf entries).fields.length = 10 := rfl
  have hread : ∀ i (hi : i < (headerOf entries).fields.length),
      (headerOf entries).fields[i].2 < 2 ^ 32 →
      field (romfsImage entries) (0 + (((headerOf entries).fields.take i).map Prod.fst).sum)
        (headerOf entries).fields[i].1 = (headerOf entries).fields[i].2 := by
    intro i hi hlt
    refine field_packed hwhole hi (hlt.trans_le ?_)
    have hwidth : (headerOf entries).fields[i].1 = 8 := by
      have hall : ∀ f ∈ (headerOf entries).fields, f.1 = 8 := by simp [RomfsHeader.fields]
      exact hall _ (List.getElem_mem hi)
    rw [hwidth]
    decide
  have hdho := hread 1 (by omega) (show (headerOf entries).dirHashTableOff < 2 ^ 32 by omega)
  have hdhs := hread 2 (by omega) (show 12 < 2 ^ 32 by omega)
  have hdto := hread 3 (by omega) (show (headerOf entries).dirTableOff < 2 ^ 32 by omega)
  have hdts := hread 4 (by omega) (show 24 < 2 ^ 32 by omega)
  have hfho := hread 5 (by omega) (show (headerOf entries).fileHashTableOff < 2 ^ 32 by omega)
  have hfhs := hread 6 (by omega) (show (headerOf entries).fileHashTableSize < 2 ^ 32 by omega)
  have hfto := hread 7 (by omega) (show (headerOf entries).fileTableOff < 2 ^ 32 by omega)
  have hfts := hread 8 (by omega) (show fileTableSize entries < 2 ^ 32 by omega)
  have hfdo := hread 9 (by omega) (show 0x200 < 2 ^ 32 by omega)
  exact RomfsHeader.mk.injEq .. |>.mpr ⟨hdho, hdhs, hdto, hdts, hfho, hfhs, hfto, hfts, hfdo⟩

/-- No offset of a record is the empty one. -/
lemma entryOffset_lt {f : FileEntry × ℕ} (hf : f ∈ filesOf entries) :
    ((partitionOf entries).contexts f.2).entryOffset < ROMFS_ENTRY_EMPTY := by
  have hwithin := ((laid_partitionOf entries).recordWithin f hf).2
  have htable := fileTable_le entries
  rw [total_partitionOf] at hwithin
  unfold entrySize at hwithin
  unfold ROMFS_ENTRY_EMPTY
  omega

/-- The pointer to a context is the offset of its record. -/
lemma pointer_entryOffsetOf {o : Option ℕ} (ho : ∀ i, o = some i → i ∈ visitOrder entries.length) :
    pointer (entryOffsetOf (partitionOf entries).contexts o) =
      o.map fun i => ((partitionOf entries).contexts i).entryOffset := by
  cases o with
  | none => rfl
  | some i =>
    obtain ⟨f, hf, rfl⟩ := exists_file (ho i rfl)
    exact if_neg (entryOffset_lt hsize hf).ne

lemma entryOffsetOf_le {o : Option ℕ} (ho : ∀ i, o = some i → i ∈ visitOrder entries.length) :
    entryOffsetOf (partitionOf entries).contexts o ≤ ROMFS_ENTRY_EMPTY := by
  cases o with
  | none => exact le_rfl
  | some i =>
    obtain ⟨f, hf, rfl⟩ := exists_file (ho i rfl)
    exact (entryOffset_lt hsize hf).le

lemma bounded_links :
    (∀ x ∈ heads entries, x < 2 ^ 32) ∧ ∀ link ∈ links entries, link.2 < 2 ^ 32 := by
  refine bounded_tables (by omega) (fun x hx => ?_) fun f hf => ?_
  · obtain rfl := List.eq_of_mem_replicate hx
    decide
  · have hlt := entryOffset_lt hsize hf
    unfold ROMFS_ENTRY_EMPTY at hlt
    omega

lemma fits_recordOf {link : (FileEntry × ℕ) × ℕ} (h : link ∈ links entries) :
    (recordOf (partitionOf entries).contexts link.1 link.2).Fits := by
  have hfile := mem_filesOf_of_link h
  have hdata := data_le hfile
  have hwithin := ((laid_partitionOf entries).recordWithin _ hfile).2
  have htable := fileTable_le entries
  have hrecord := length_record (partitionOf entries).contexts link
  have hentry := length_record_le (partitionOf entries).contexts link
  have hsibling := entryOffsetOf_le hsize fun i hi =>
    sibling_mem (mem_visitOrder_of_file hfile) hi
  have hnext := (bounded_links hsize).2 link h
  rw [total_partitionOf] at hwithin
  rw [recordItem, RomfsFileEntry.length_bytes] at hrecord
  unfold ROMFS_ENTRY_EMPTY at hsibling
  refine ⟨?_, ?_, ?_, ?_, ?_, ?_⟩
  · show 0 < 256 ^ 4
    omega
  · show entryOffsetOf _ _ < 256 ^ 4
    omega
  · show ((partitionOf entries).contexts link.1.2).offset < 256 ^ 8
    omega
  · show ((partitionOf entries).contexts link.1.2).size < 256 ^ 8
    omega
  · show link.2 < 256 ^ 4
    omega
  · rw [length_record] at hentry
    omega

lemma readFile_eq {link : (FileEntry × ℕ) × ℕ} (h : link ∈ links entries) :
    readFile (romfsImage entries) ((partitionOf entries).contexts link.1.2).entryOffset =
      (recordOf (partitionOf entries).contexts link.1 link.2, stored entries link.1) := by
  have htable : slice (romfsImage entries) (headerOf entries).fileTableOff
      (headerOf entries).fileTableSize = fileTable entries := by
    have hpart := @slice_table entries
      ((headerOf entries).fileTableOff, fileTable entries) (by simp [tableItems])
    rwa [length_fileTable] at hpart
  have hdata := data_le (mem_filesOf_of_link h)
  have hread := readFileEntry_eq (fits_recordOf hsize h) (slice_fileTable h)
  unfold readFile
  dsimp only
  rw [readHeader_eq hsize, htable, hread]
  refine congrArg (Prod.mk _) ?_
  show slice _ (0x200 + ((partitionOf entries).contexts link.1.2).offset)
    ((partitionOf entries).contexts link.1.2).size = stored entries link.1
  rw [Nat.add_comm, slice_romfsImage (by omega)]
  rfl

/-- What the reader takes from the record of a file, its hash chain aside. -/
lemma readFile_of_mem {f : FileEntry × ℕ} (hf : f ∈ filesOf entries) :
    ∃ nextHash, readFile (romfsImage entries) ((partitionOf entries).contexts f.2).entryOffset =
      ({ parent := 0
         sibling := entryOffsetOf (partitionOf entries).contexts
           ((partitionOf entries).contexts f.2).sibling
         dataOff := ((partitionOf entries).contexts f.2).offset
         dataSize := ((partitionOf entries).contexts f.2).size
         nextHash := nextHash
         name := pathName f.1 }, stored entries f) := by
  rw [← map_fst_links] at hf
  obtain ⟨link, hlink, rfl⟩ := List.mem_map.mp hf
  have hname : slice link.1.1.name 1 (nameSize link.1.1) = pathName link.1.1 := by
    unfold slice nameSize pathName
    rw [List.take_of_length_le]
    rw [List.length_drop]
  refine ⟨link.2, ?_⟩
  rw [readFile_eq hsize hlink, recordOf, hname]

/-- A chain through some of the records. -/
lemma chainFrom_eq {link : RomfsFileEntry → ℕ} {off : ℕ} {files : List (FileEntry × ℕ)}
    (hlength : files.length ≤ (filesOf entries).length)
    (h : Linked (fun off => pointer (link (readFile (romfsImage entries) off).1)) (pointer off)
      (files.map fun f => ((partitionOf entries).contexts f.2).entryOffset)) :
    chainFrom (romfsImage entries) link off =
      some (files.map fun f => ((partitionOf entries).contexts f.2).entryOffset) := by
  unfold chainFrom
  rw [readHeader_eq hsize]
  refine h.follow ?_
  rw [List.length_map]
  exact hlength.trans (length_filesOf_le entries)

lemma listFiles_eq : listFiles (romfsImage entries) =
    some ((filesOf entries).map fun f => (pathName f.1, stored entries f)) := by
  have hvisited := visited_romfsVisitDir entries
  have hchildren : ∀ i, (romfsVisitDir entries).childFileTree = some i →
      i ∈ visitOrder entries.length := by
    intro i hi
    have hhead := hvisited.children.head?
    rw [hi] at hhead
    exact List.mem_of_mem_head? hhead.symm
  have hroot : field (slice (romfsImage entries) (headerOf entries).dirTableOff
      (headerOf entries).dirTableSize) 12 4 = (rootEntry entries).childFile := by
    have htable : slice (romfsImage entries) (headerOf entries).dirTableOff 24 = _ :=
      length_rootEntry (rootEntry entries) ▸ @slice_table entries
        ((headerOf entries).dirTableOff, (rootEntry entries).bytes)
        (by simp [tableItems])
    have hwhole : slice (rootEntry entries).bytes 0
        (packed (rootEntry entries).fields ++ []).length =
          packed (rootEntry entries).fields ++ [] := by
      rw [← RomfsDirEntry.bytes_eq, slice_zero rfl]
    have hcount : (rootEntry entries).fields.length = 6 := rfl
    have hchild : (rootEntry entries).childFile ≤ ROMFS_ENTRY_EMPTY :=
      entryOffsetOf_le hsize hchildren
    unfold ROMFS_ENTRY_EMPTY at hchild
    refine Eq.trans (congrArg (fun table => field table 12 4) htable) ?_
    exact field_packed (i := 3) hwhole (by omega)
      (show (rootEntry entries).childFile < 256 ^ 4 by omega)
  have hsiblings : Linked
      (fun off => pointer (RomfsFileEntry.sibling (readFile (romfsImage entries) off).1))
      (pointer (rootEntry entries).childFile)
      ((filesOf entries).map fun f => ((partitionOf entries).contexts f.2).entryOffset) := by
    have hstart : pointer (rootEntry entries).childFile = _ :=
      pointer_entryOffsetOf hsize hchildren
    rw [hstart, ← offsets_eq]
    refine hvisited.children.map fun i hi => ?_
    obtain ⟨f, hf, rfl⟩ := exists_file hi
    obtain ⟨nextHash, hread⟩ := readFile_of_mem hsize hf
    rw [hread]
    dsimp only
    rw [pointer_entryOffsetOf hsize fun j hj => sibling_mem hi hj,
      (laid_partitionOf entries).sibling]
  unfold listFiles
  dsimp only
  rw [readHeader_eq hsize, hroot, chainFrom_eq hsize le_rfl hsiblings, Option.map_some,
    List.map_map]
  refine congrArg some (List.map_congr_left fun f hf => ?_)
  obtain ⟨nextHash, hread⟩ := readFile_of_mem hsize hf
  rw [Function.comp_apply, hread]

lemma chain_of_bucket {slot : ℕ} (hslot : slot < fileCount entries) :
    chainFrom (romfsImage entries) RomfsFileEntry.nextHash ((heads entries).getD slot 0) =
      some ((bucketFiles entries slot).map fun f =>
        ((partitionOf entries).contexts f.2).entryOffset) := by
  have hlength : (bucketFiles entries slot).length ≤ (filesOf entries).length := by
    rw [bucketFiles, List.length_reverse]
    exact List.length_filter_le _ _
  refine chainFrom_eq hsize hlength ?_
  have hlinked := @linked_buckets (partitionOf entries).contexts _ (emptyHeads entries)
    (filesOf entries) (fun off => pointer (readFile (romfsImage entries) off).1.nextHash)
    (fun _ => []) List.length_replicate (fun f hf => (entryOffset_lt hsize hf).ne) ?_ ?_ _ hslot
  · rwa [List.append_nil] at hlinked
  · intro link hlink
    rw [readFile_eq hsize hlink]
    rfl
  · intro b hb
    show pointer ((emptyHeads entries).getD b 0) = none
    rw [emptyHeads, List.getD_eq_getElem _ _ (by rwa [List.length_replicate]),
      List.getElem_replicate]
    rfl

lemma findFile_eq (hnames : (entries.map pathName).Nodup) (name : Bytes) :
    findFile (romfsImage entries) name =
      some (((filesOf entries).find? fun f => pathName f.1 = name).map (stored entries)) := by
  have hslot : slotOf entries name < fileCount entries := Nat.mod_lt _ (fileCount_pos entries)
  have hlt : slotOf entries name < (heads entries).length := by rwa [length_heads]
  have hcount : (headerOf entries).fileHashTableSize / 4 = fileCount entries :=
    Nat.mul_div_cancel_left _ (by omega)
  have htable : slice (romfsImage entries) (headerOf entries).fileHashTableOff
      (headerOf entries).fileHashTableSize = tableBytes (heads entries) := by
    have hpart := @slice_table entries
      ((headerOf entries).fileHashTableOff, tableBytes (heads entries))
      (by simp [tableItems])
    rwa [length_tableBytes, length_heads] at hpart
  have hhead : field (tableBytes (heads entries)) (4 * slotOf entries name) 4 =
      (heads entries).getD (slotOf entries name) 0 := by
    have hrow := slice_rows (f := le 4) hlt fun x _ => length_le 4 x
    have hfits := (bounded_links hsize).1 _ (List.getElem_mem hlt)
    rw [field, tableBytes, hrow, ofLe_le_of_lt hfits, List.getD_eq_getElem _ _ hlt]
  unfold findFile
  dsimp only
  rw [readHeader_eq hsize, hcount, htable, ← slotOf, hhead, chain_of_bucket hsize hslot,
    Option.map_some, List.find?_map, Option.map_map]
  have hfound : (bucketFiles entries (slotOf entries name)).find?
      ((fun off => decide ((readFile (romfsImage entries) off).1.parent = 0 ∧
        (readFile (romfsImage entries) off).1.name = name)) ∘ fun f =>
          ((partitionOf entries).contexts f.2).entryOffset) =
      (filesOf entries).find? fun f => pathName f.1 = name := by
    rw [← find_bucket hnames name]
    apply List.find?_congr
    intro f hf
    have hmem := (List.mem_filter.mp (List.mem_reverse.mp hf)).1
    obtain ⟨nextHash, hread⟩ := readFile_of_mem hsize hmem
    rw [Function.comp_apply, hread]
    simp
  rw [hfound]
  refine congrArg some (Option.map_congr fun f hf => ?_)
  have hmem := List.mem_of_find?_eq_some (Option.mem_def.mp hf)
  obtain ⟨nextHash, hread⟩ := readFile_of_mem hsize hmem
  rw [Function.comp_apply, hread]

end

/-! ## The sizes decide -/

/-- A slash and a name. -/
def IsPath (name : Bytes) : Prop := ∃ rest, rest ≠ [] ∧ name = 47 :: rest

lemma nodup_pathName (hpaths : ∀ e ∈ entries, IsPath e.name)
    (hnodup : (entries.map FileEntry.name).Nodup) : (entries.map pathName).Nodup := by
  have hsplit : entries.map FileEntry.name = (entries.map pathName).map (47 :: ·) := by
    rw [List.map_map]
    apply List.map_congr_left
    intro e he
    obtain ⟨rest, _, hname⟩ := hpaths e he
    rw [Function.comp_apply, pathName, hname, List.drop_one, List.tail_cons]
  rw [hsplit] at hnodup
  exact hnodup.of_map _

/-- The sizes of the files behind the first one read the same backwards. -/
def SizesMirrored (entries : FileEntries) : Prop :=
  (entries.tail.map fun e => e.data.length).reverse = entries.tail.map fun e => e.data.length

instance (entries : FileEntries) : Decidable (SizesMirrored entries) :=
  inferInstanceAs (Decidable (_ = _))

/-- The sizes in the order of the contexts. -/
lemma map_size_visitOrder (first : FileEntry) (rest : FileEntries) :
    (visitOrder (first :: rest).length).map
        (fun i => ((romfsVisitDir (first :: rest)).contexts i).size) =
      first.data.length :: (rest.map fun e => e.data.length).reverse := by
  have hsizes := (visited_romfsVisitDir (first :: rest)).sizes
  rw [List.length_cons, visitOrder_succ, List.map_cons, hsizes 0 (Nat.succ_pos _), List.map_map]
  refine congrArg (first.data.length :: ·) (List.ext_getElem (by simp) fun k hk _ => ?_)
  have hlt : k < rest.length := by simpa using hk
  have hback : rest.length - k < (first :: rest).length := by
    rw [List.length_cons]
    omega
  rw [List.getElem_map, List.getElem_range, Function.comp_apply, hsizes _ hback,
    List.getElem_reverse, List.getElem_map]
  have hindex : rest.length - k = rest.length - 1 - k + 1 := by omega
  simp only [hindex, List.getElem_cons_succ, List.length_map]

/-- The recorded sizes are those of the entries where the sizes are mirrored. -/
lemma sizes_eq_iff (entries : FileEntries) :
    (∀ f ∈ filesOf entries, ((partitionOf entries).contexts f.2).size = f.1.data.length) ↔
      SizesMirrored entries := by
  have hcontexts : (filesOf entries).map (fun f => ((partitionOf entries).contexts f.2).size) =
      (visitOrder entries.length).map fun i => ((romfsVisitDir entries).contexts i).size := by
    rw [← map_snd_filesOf, List.map_map]
    exact List.map_congr_left fun f _ => (laid_partitionOf entries).size f.2
  have hdata : (filesOf entries).map (fun f => f.1.data.length) =
      entries.map fun e => e.data.length := by
    conv_rhs => rw [← map_fst_filesOf entries, List.map_map]
    rfl
  rw [← List.map_inj_left, hcontexts, hdata]
  cases entries with
  | nil => exact iff_of_true rfl rfl
  | cons first rest =>
    rw [map_size_visitOrder, List.map_cons, List.cons_inj_right]
    exact Iff.rfl

lemma length_stored {f : FileEntry × ℕ} (hf : f ∈ filesOf entries) :
    (stored entries f).length = ((partitionOf entries).contexts f.2).size := by
  have hdata := data_le hf
  rw [stored, length_slice_of_le]
  omega

lemma roundTrips_iff (hsize : (imageOf entries).length < 2 ^ 32)
    (hnames : (entries.map pathName).Nodup) :
    RoundTrips (romfsImage entries) entries ↔ SizesMirrored entries := by
  have hlist := listFiles_eq hsize
  have hentries : entries.map (fun e => (pathName e, e.data)) =
      (filesOf entries).map fun f => (pathName f.1, f.1.data) := by
    conv_lhs => rw [← map_fst_filesOf entries, List.map_map]
    rfl
  rw [← sizes_eq_iff]
  constructor
  · intro h f hf
    have hsame := h.list
    rw [hlist, hentries, Option.some.injEq, List.map_inj_left] at hsame
    rw [← length_stored hf, (Prod.mk.inj (hsame f hf)).2]
  · intro h
    have hstored : ∀ f ∈ filesOf entries, stored entries f = f.1.data := by
      intro f hf
      rw [stored, h f hf]
      exact slice_data h hf
    refine ⟨?_, fun name => ?_⟩
    · rw [hlist, hentries]
      exact congrArg some (List.map_congr_left fun f hf => by rw [hstored f hf])
    · rw [findFile_eq hsize hnames]
      conv_rhs => rw [← map_fst_filesOf entries, List.find?_map, Option.map_map]
      refine congrArg some (Option.map_congr fun f hf => ?_)
      exact hstored f (List.mem_of_find?_eq_some (Option.mem_def.mp hf))

/-- An image below four gigabytes gives its files back exactly if their sizes are mirrored. -/
theorem buildRomfs_roundTrips_iff (entries : FileEntries)
    (hpaths : ∀ e ∈ entries, IsPath e.name) (hnodup : (entries.map FileEntry.name).Nodup) :
    ∃ size image, buildRomfs entries = some (size, image) ∧
      (size < 2 ^ 32 → (RoundTrips image entries ↔ SizesMirrored entries)) :=
  ⟨(imageOf entries).length, romfsImage entries, buildRomfs_eq entries, fun hsize =>
    roundTrips_iff hsize (nodup_pathName hpaths hnodup)⟩

/-- `/a`, `/b` and `/c`. -/
def threeFiles (a b c : Bytes) : FileEntries := [⟨[47, 97], a⟩, ⟨[47, 98], b⟩, ⟨[47, 99], c⟩]

lemma isPath_threeFiles (a b c : Bytes) : ∀ e ∈ threeFiles a b c, IsPath e.name := by
  simp [threeFiles, IsPath]

/-- Two files of one size behind the first come back. -/
theorem threeFiles_roundTrips :
    ∃ size image, buildRomfs (threeFiles [1] [2, 3] [4, 5]) = some (size, image) ∧
      RoundTrips image (threeFiles [1] [2, 3] [4, 5]) := by
  have hsize : ∀ r ∈ buildRomfs (threeFiles [1] [2, 3] [4, 5]), r.1 < 2 ^ 32 := by
    decide +kernel
  obtain ⟨size, image, hbuild, hiff⟩ :=
    buildRomfs_roundTrips_iff (threeFiles [1] [2, 3] [4, 5]) (isPath_threeFiles _ _ _) (by decide)
  exact ⟨size, image, hbuild, (hiff (hsize _ hbuild)).mpr (by decide)⟩

/-- The second file gets the size of the third, and the third that of the second. -/
theorem threeFiles_sizes_swapped :
    (∀ e ∈ threeFiles [1] [2] [3, 4], IsPath e.name) ∧
      ((threeFiles [1] [2] [3, 4]).map FileEntry.name).Nodup ∧
      ∃ size image, buildRomfs (threeFiles [1] [2] [3, 4]) = some (size, image) ∧
        size < 2 ^ 32 ∧
        listFiles image = some [([97], [1]), ([98], [2, 0]), ([99], [3])] ∧
        ¬ RoundTrips image (threeFiles [1] [2] [3, 4]) := by
  have hread : ∀ r ∈ buildRomfs (threeFiles [1] [2] [3, 4]), r.1 < 2 ^ 32 ∧
      listFiles r.2 = some [([97], [1]), ([98], [2, 0]), ([99], [3])] := by
    decide +kernel
  obtain ⟨hsize, hlist⟩ := hread _ (buildRomfs_eq _)
  refine ⟨isPath_threeFiles _ _ _, by decide, _, _, buildRomfs_eq _, hsize, hlist, fun h => ?_⟩
  have hsame := hlist.symm.trans h.list
  revert hsame
  decide

end ArtemisSwitch.Forwarder
