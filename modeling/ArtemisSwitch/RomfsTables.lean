import ArtemisSwitch.Library.LinkedCells
import ArtemisSwitch.NcaIntegrity
import ArtemisSwitch.Romfs
import Mathlib.Algebra.BigOperators.Group.List.Basic
import Mathlib.Data.List.Induction

/-!
# Where the parts of a RomFS image lie

The contexts come in another order than the entries: each insertion goes behind the head.  The
loops step through both at a time.
-/

namespace ArtemisSwitch.Forwarder
open ByteLayout LinkedCells

/-! ## The order of the contexts -/

def visitOrder : ℕ → List ℕ
  | 0 => []
  | n + 1 => insertBehind n (visitOrder n)

lemma visitOrder_succ (n : ℕ) : visitOrder (n + 1) = 0 :: (List.range n).map (n - ·) := by
  induction n with
  | zero => rfl
  | succ n ih =>
    rw [visitOrder, ih, insertBehind, List.range_succ_eq_map, List.map_cons, List.map_map,
      Nat.sub_zero]
    refine congrArg (fun l => 0 :: (n + 1) :: l) (List.map_congr_left fun k _ => ?_)
    show n - k = n + 1 - (k + 1)
    omega

lemma length_visitOrder (n : ℕ) : (visitOrder n).length = n := by
  cases n with
  | zero => rfl
  | succ n => rw [visitOrder_succ, List.length_cons, List.length_map, List.length_range]

lemma perm_visitOrder (n : ℕ) : (visitOrder n).Perm (List.range n) := by
  induction n with
  | zero => exact .refl _
  | succ n ih =>
    rw [List.range_succ]
    refine perm_insertBehind.trans ((ih.cons n).trans ?_)
    exact (List.perm_append_singleton n (List.range n)).symm

lemma mem_visitOrder {i n : ℕ} : i ∈ visitOrder n ↔ i < n := by
  rw [(perm_visitOrder n).mem_iff, List.mem_range]

lemma nodup_visitOrder (n : ℕ) : (visitOrder n).Nodup :=
  (perm_visitOrder n).nodup_iff.mpr List.nodup_range

lemma head?_visitOrder (n : ℕ) : (visitOrder (n + 1)).head? = some 0 := by
  rw [visitOrder_succ, List.head?_cons]

/-! ## What the visit leaves -/

structure Visited (r : RomfsContext) (entries : FileEntries) : Prop where
  files : Linked (fun i => (r.contexts i).next) r.files (visitOrder entries.length)
  children : Linked (fun i => (r.contexts i).sibling) r.childFileTree
    (visitOrder entries.length)
  numFiles : r.numFiles = entries.length
  fileTableSize : r.fileTableSize = (entries.map entrySize).sum
  sizes : ∀ i (h : i < entries.length), (r.contexts i).size = entries[i].data.length

variable {r : RomfsContext} {entries : FileEntries} {entry : FileEntry} {head : ℕ}

lemma visitFile_empty (hf : r.files = none) (hc : r.childFileTree = none) :
    visitFile r entry =
      { contexts := Function.update r.contexts r.numFiles { size := entry.data.length }
        files := some r.numFiles
        numFiles := r.numFiles + 1
        fileTableSize := r.fileTableSize + entrySize entry
        childFileTree := some r.numFiles } := by
  unfold visitFile
  rw [hf, hc]
  rfl

lemma visitFile_behind (hf : r.files = some head) (hc : r.childFileTree = some head)
    (hne : head ≠ r.numFiles) :
    visitFile r entry =
      { contexts := Function.update
          (Function.update r.contexts head
            { r.contexts head with sibling := some r.numFiles, next := some r.numFiles })
          r.numFiles
          { size := entry.data.length
            sibling := (r.contexts head).sibling
            next := (r.contexts head).next }
        files := some head
        numFiles := r.numFiles + 1
        fileTableSize := r.fileTableSize + entrySize entry
        childFileTree := some head } := by
  unfold visitFile
  rw [hf, hc]
  dsimp only [Option.getD_some]
  simp only [RomfsContext.mk.injEq, and_true]
  funext i
  by_cases hi : i = r.numFiles
  · subst hi
    simp [hne, Ne.symm hne]
  · by_cases hh : i = head
    · subst hh
      simp [hne]
    · simp [hi, hh]

/-- A tail of the order holds neither the head nor the next context. -/
lemma ne_of_mem_tail {i n : ℕ} (hi : i ∈ (visitOrder (n + 1)).tail) : i ≠ 0 ∧ i ≠ n + 1 := by
  have hnodup := nodup_visitOrder (n + 1)
  have hlt := mem_visitOrder.mp (List.mem_of_mem_tail hi)
  rw [visitOrder_succ] at hnodup hi
  refine ⟨fun hz => (List.nodup_cons.mp hnodup).1 ?_, by omega⟩
  rwa [← hz]

lemma Visited.visitFile (h : Visited r entries) :
    Visited (visitFile r entry) (entries ++ [entry]) := by
  have hn := h.numFiles
  have hlength : (entries ++ [entry]).length = entries.length + 1 := by simp
  have hsum : ((entries ++ [entry]).map entrySize).sum = r.fileTableSize + entrySize entry := by
    rw [List.map_append, List.sum_append, h.fileTableSize, List.map_singleton, List.sum_singleton]
  cases hcount : entries.length with
  | zero =>
    obtain rfl : entries = [] := List.length_eq_zero_iff.mp hcount
    rw [visitFile_empty h.files h.children, hn]
    refine ⟨⟨rfl, ?_⟩, ⟨rfl, ?_⟩, rfl, hsum.symm, fun i hi => ?_⟩
    · show (Function.update r.contexts 0 { size := entry.data.length } 0).next = none
      rw [Function.update_self]
    · show (Function.update r.contexts 0 { size := entry.data.length } 0).sibling = none
      rw [Function.update_self]
    · obtain rfl : i = 0 := by simpa using hi
      show (Function.update r.contexts 0 { size := entry.data.length } 0).size = _
      rw [Function.update_self]
      rfl
  | succ n =>
    have hfiles := h.files
    have hchildren := h.children
    have horder : visitOrder (n + 1 + 1) = LinkedCells.insertBehind (n + 1) (visitOrder (n + 1)) :=
      rfl
    rw [hcount] at hn hfiles hchildren
    have hhead := hfiles.head?
    have hchild := hchildren.head?
    rw [head?_visitOrder] at hhead hchild
    rw [hhead] at hfiles
    rw [hchild] at hchildren
    rw [visitFile_behind hhead hchild (by omega), hn]
    refine ⟨?_, ?_, ?_, hsum.symm, fun i hi => ?_⟩
    · rw [hlength, hcount, horder]
      apply hfiles.insertBehind
      · simp
      · simp
      · intro i hi
        obtain ⟨hz, hl⟩ := ne_of_mem_tail hi
        simp [hz, hl]
    · rw [hlength, hcount, horder]
      apply hchildren.insertBehind
      · simp
      · simp
      · intro i hi
        obtain ⟨hz, hl⟩ := ne_of_mem_tail hi
        simp [hz, hl]
    · rw [hlength, hcount]
    · have hsizes := h.sizes
      rw [hlength] at hi
      by_cases hlast : i = n + 1
      · subst hlast
        simp [← hcount]
      · have hold : i < entries.length := by omega
        rw [List.getElem_append_left hold, ← hsizes i hold]
        by_cases hz : i = 0
        · simp [hz]
        · simp [hz, hlast]

lemma visited_romfsVisitDir (entries : FileEntries) :
    Visited (romfsVisitDir entries) entries := by
  induction entries using List.reverseRecOn with
  | nil => exact ⟨rfl, rfl, rfl, rfl, fun i hi => absurd hi (Nat.not_lt_zero i)⟩
  | append_singleton entries entry ih =>
    unfold romfsVisitDir
    rw [List.foldl_append, List.foldl_cons, List.foldl_nil]
    exact ih.visitFile

/-! ## The loops step through the contexts -/

lemma walk_of_linked {contexts : ℕ → RomfsFileContext} {start : Option ℕ} {l : List ℕ}
    (h : Linked (fun i => (contexts i).next) start l) : walk contexts l.length start = some l := by
  induction l generalizing start with
  | nil => unfold walk; rfl
  | cons i l ih =>
    obtain ⟨rfl, hrest⟩ := h
    rw [List.length_cons, walk, ih hrest, Option.map_some]

lemma le_align64 (offset : ℕ) {alignment : ℕ} (h : 0 < alignment) :
    offset ≤ align64 offset alignment := by
  have hsplit := Nat.div_add_mod (offset + (alignment - 1)) alignment
  have hmod := Nat.mod_lt (offset + (alignment - 1)) h
  rw [Nat.mul_comm] at hsplit
  unfold align64
  omega

section
variable {p : Partition} {file : FileEntry × ℕ} {i : ℕ}

lemma place_self : (p.place file).contexts file.2 =
    { p.contexts file.2 with
      offset := align64 p.filePartitionSize 0x10, entryOffset := p.entryOffset } :=
  Function.update_self ..

lemma place_of_ne (h : i ≠ file.2) : (p.place file).contexts i = p.contexts i :=
  Function.update_of_ne h ..

lemma place_kept : ((p.place file).contexts i).size = (p.contexts i).size ∧
    ((p.place file).contexts i).sibling = (p.contexts i).sibling := by
  by_cases hi : i = file.2
  · subst hi
    rw [place_self]
    exact ⟨rfl, rfl⟩
  · rw [place_of_ne hi]
    exact ⟨rfl, rfl⟩

end

/-- What the first loop leaves: two tables, in both of which the entries keep their order. -/
structure Laid (p p' : Partition) (files : List (FileEntry × ℕ)) : Prop where
  frame : ∀ i, i ∉ files.map Prod.snd → p'.contexts i = p.contexts i
  size : ∀ i, (p'.contexts i).size = (p.contexts i).size
  sibling : ∀ i, (p'.contexts i).sibling = (p.contexts i).sibling
  total : p'.entryOffset = p.entryOffset + (files.map fun f => entrySize f.1).sum
  records : files.Pairwise fun f g =>
    (p'.contexts f.2).entryOffset + entrySize f.1 ≤ (p'.contexts g.2).entryOffset
  recordWithin : ∀ f ∈ files, p.entryOffset ≤ (p'.contexts f.2).entryOffset ∧
    (p'.contexts f.2).entryOffset + entrySize f.1 ≤ p'.entryOffset
  grows : p.filePartitionSize ≤ p'.filePartitionSize
  data : files.Pairwise fun f g =>
    (p'.contexts f.2).offset + (p'.contexts f.2).size ≤ (p'.contexts g.2).offset
  dataWithin : ∀ f ∈ files, p.filePartitionSize ≤ (p'.contexts f.2).offset ∧
    (p'.contexts f.2).offset + (p'.contexts f.2).size ≤ p'.filePartitionSize

lemma laid_place {files : List (FileEntry × ℕ)} (hnodup : (files.map Prod.snd).Nodup)
    (p : Partition) : Laid p (files.foldl Partition.place p) files := by
  induction files generalizing p with
  | nil =>
    refine ⟨fun _ _ => rfl, fun _ => rfl, fun _ => rfl, rfl, .nil, ?_, le_rfl, .nil, ?_⟩
    · exact fun f hf => absurd hf List.not_mem_nil
    · exact fun f hf => absurd hf List.not_mem_nil
  | cons file files ih =>
    obtain ⟨hfresh, hrest⟩ := List.nodup_cons.mp hnodup
    have h := ih hrest (p.place file)
    have halign := le_align64 p.filePartitionSize (show 0 < 0x10 by omega)
    have hplaced : (files.foldl Partition.place (p.place file)).contexts file.2 =
        { p.contexts file.2 with
          offset := align64 p.filePartitionSize 0x10, entryOffset := p.entryOffset } := by
      rw [h.frame _ hfresh, place_self]
    have hpartition : (p.place file).filePartitionSize =
        align64 p.filePartitionSize 0x10 + (p.contexts file.2).size := rfl
    have hentry : (p.place file).entryOffset = p.entryOffset + entrySize file.1 := rfl
    have hgrows := h.grows
    have htotal := h.total
    rw [List.foldl_cons]
    refine ⟨fun i hi => ?_, fun i => ?_, fun i => ?_, ?_, ?_, fun f hf => ?_, ?_, ?_,
      fun f hf => ?_⟩
    · rw [List.map_cons, List.mem_cons, not_or] at hi
      rw [h.frame i hi.2, place_of_ne hi.1]
    · rw [h.size, place_kept.1]
    · rw [h.sibling, place_kept.2]
    · rw [htotal, hentry, List.map_cons, List.sum_cons, Nat.add_assoc]
    · refine List.pairwise_cons.mpr ⟨fun g hg => ?_, h.records⟩
      have hwithin := (h.recordWithin g hg).1
      rw [hplaced]
      exact hentry ▸ hwithin
    · obtain rfl | hmem := List.mem_cons.mp hf
      · rw [hplaced, htotal, hentry]
        exact ⟨le_rfl, Nat.le_add_right _ _⟩
      · have hwithin := h.recordWithin f hmem
        rw [hentry] at hwithin
        exact ⟨by omega, hwithin.2⟩
    · omega
    · refine List.pairwise_cons.mpr ⟨fun g hg => ?_, h.data⟩
      have hwithin := (h.dataWithin g hg).1
      rw [hplaced]
      exact hpartition ▸ hwithin
    · obtain rfl | hmem := List.mem_cons.mp hf
      · rw [hplaced]
        exact ⟨halign, hpartition ▸ hgrows⟩
      · have hwithin := h.dataWithin f hmem
        exact ⟨by omega, hwithin.2⟩

/-! ## Records -/

def RomfsFileEntry.fields (e : RomfsFileEntry) : List (ℕ × ℕ) :=
  [(4, e.parent), (4, e.sibling), (8, e.dataOff), (8, e.dataSize), (4, e.nextHash),
    (4, e.name.length)]

lemma RomfsFileEntry.bytes_eq (e : RomfsFileEntry) : e.bytes = packed e.fields ++ e.name := by
  simp [RomfsFileEntry.bytes, packed, RomfsFileEntry.fields]

lemma RomfsFileEntry.length_bytes (e : RomfsFileEntry) : e.bytes.length = 32 + e.name.length := by
  rw [e.bytes_eq, List.length_append, length_packed]
  rfl

/-- What an offset in a record or a table points to. -/
def pointer (off : ℕ) : Option ℕ := if off = ROMFS_ENTRY_EMPTY then none else some off

/-! ## The loop that fills the tables -/

section
variable (contexts : ℕ → RomfsFileContext) (count : ℕ)

/-- The record of a file, whose hash chain goes on at `nextHash`. -/
def recordOf (file : FileEntry × ℕ) (nextHash : ℕ) : RomfsFileEntry where
  parent := 0
  sibling := entryOffsetOf contexts (contexts file.2).sibling
  dataOff := (contexts file.2).offset
  dataSize := (contexts file.2).size
  nextHash := nextHash
  name := slice file.1.name 1 (nameSize file.1)

def recordItem (link : (FileEntry × ℕ) × ℕ) : ℕ × Bytes :=
  ((contexts link.1.2).entryOffset, (recordOf contexts link.1 link.2).bytes)

/-- Each file with what its bucket held before. -/
def linksOf : List ℕ → List (FileEntry × ℕ) → List ((FileEntry × ℕ) × ℕ)
  | _, [] => []
  | heads, file :: files =>
    (file, heads.getD (bucket count file.1.name) 0) ::
      linksOf (heads.set (bucket count file.1.name) (contexts file.2).entryOffset) files

def headsAfter (heads : List ℕ) (files : List (FileEntry × ℕ)) : List ℕ :=
  files.foldl (fun heads file =>
    heads.set (bucket count file.1.name) (contexts file.2).entryOffset) heads

lemma foldl_enter (files : List (FileEntry × ℕ)) (t : FileTables) :
    files.foldl (FileTables.enter contexts count) t =
      { fileTable := overwriteAll t.fileTable
          ((linksOf contexts count t.fileHashTable files).map (recordItem contexts))
        fileHashTable := headsAfter contexts count t.fileHashTable files } := by
  induction files generalizing t with
  | nil => rfl
  | cons file files ih =>
    rw [List.foldl_cons, ih]
    rfl

lemma map_fst_linksOf (heads : List ℕ) (files : List (FileEntry × ℕ)) :
    (linksOf contexts count heads files).map Prod.fst = files := by
  induction files generalizing heads with
  | nil => rfl
  | cons file files ih => rw [linksOf, List.map_cons, ih]

variable {contexts count} {heads : List ℕ} {files : List (FileEntry × ℕ)}

lemma length_headsAfter : (headsAfter contexts count heads files).length = heads.length := by
  induction files generalizing heads with
  | nil => rfl
  | cons file files ih =>
    refine Eq.trans (@ih (heads.set _ _)) ?_
    rw [List.length_set]

/-- A bound on all offsets bounds what the buckets and the chains hold. -/
lemma bounded_tables {bound : ℕ} (h0 : 0 < bound) (hheads : ∀ x ∈ heads, x < bound)
    (hfiles : ∀ f ∈ files, (contexts f.2).entryOffset < bound) :
    (∀ x ∈ headsAfter contexts count heads files, x < bound) ∧
      ∀ link ∈ linksOf contexts count heads files, link.2 < bound := by
  induction files generalizing heads with
  | nil => exact ⟨hheads, fun link hlink => absurd hlink List.not_mem_nil⟩
  | cons file files ih =>
    have hset : ∀ x ∈ heads.set (bucket count file.1.name) (contexts file.2).entryOffset,
        x < bound := by
      intro x hx
      obtain hold | rfl := List.mem_or_eq_of_mem_set hx
      · exact hheads x hold
      · exact hfiles file (by simp)
    obtain ⟨hafter, hlinks⟩ := ih hset fun f hf => hfiles f (List.mem_cons_of_mem file hf)
    refine ⟨hafter, fun link hlink => ?_⟩
    obtain rfl | hmem := List.mem_cons.mp hlink
    · rw [List.getD_eq_getElem?_getD]
      cases hget : heads[bucket count file.1.name]? with
      | none => exact h0
      | some x => exact hheads x (List.mem_of_getElem? hget)
    · exact hlinks link hmem

/-- A bucket leads through its files, the last one first. -/
lemma linked_buckets {next : ℕ → Option ℕ} {chain : ℕ → List ℕ} (hcount : heads.length = count)
    (hfiles : ∀ f ∈ files, (contexts f.2).entryOffset ≠ ROMFS_ENTRY_EMPTY)
    (hnext : ∀ link ∈ linksOf contexts count heads files,
      next (contexts link.1.2).entryOffset = pointer link.2)
    (hchain : ∀ b, b < count → Linked next (pointer (heads.getD b 0)) (chain b)) {b : ℕ}
    (hb : b < count) :
    Linked next (pointer ((headsAfter contexts count heads files).getD b 0))
      ((files.filter fun f => bucket count f.1.name = b).reverse.map
        (fun f => (contexts f.2).entryOffset) ++ chain b) := by
  induction files generalizing heads chain with
  | nil => exact hchain b hb
  | cons file files ih =>
    have hslot : bucket count file.1.name < count := Nat.mod_lt _ (by omega)
    have hhead := hnext _ (List.mem_cons_self ..)
    have hrest := @ih (heads.set (bucket count file.1.name) (contexts file.2).entryOffset)
      (fun b => if bucket count file.1.name = b then
        (contexts file.2).entryOffset :: chain b else chain b)
      (by rw [List.length_set, hcount]) (fun f hf => hfiles f (List.mem_cons_of_mem file hf))
      (fun link hlink => hnext link (List.mem_cons_of_mem _ hlink)) ?_
    · unfold headsAfter at hrest ⊢
      rw [List.foldl_cons]
      by_cases heq : bucket count file.1.name = b
      · rw [if_pos heq] at hrest
        rw [List.filter_cons_of_pos (by simpa using heq), List.reverse_cons, List.map_append,
          List.append_assoc]
        exact hrest
      · rw [if_neg heq] at hrest
        rw [List.filter_cons_of_neg (by simpa using heq)]
        exact hrest
    · intro c hc
      by_cases heq : bucket count file.1.name = c
      · subst heq
        rw [if_pos rfl, List.getD_eq_getElem?_getD, List.getElem?_set_self (by omega),
          Option.getD_some, pointer, if_neg (hfiles file (by simp))]
        refine ⟨rfl, ?_⟩
        rw [hhead]
        exact hchain _ hc
      · rw [if_neg heq, List.getD_eq_getElem?_getD, List.getElem?_set_ne heq,
          ← List.getD_eq_getElem?_getD]
        exact hchain c hc

end

/-! ## The image -/

section
variable (entries : FileEntries)

/-- Each entry with the context that the loops reach with it. -/
def filesOf : List (FileEntry × ℕ) := entries.zip (visitOrder entries.length)

def partitionOf : Partition :=
  (filesOf entries).foldl Partition.place { contexts := (romfsVisitDir entries).contexts }

def fileCount : ℕ := romfsGetHashTableCount entries.length

def emptyHeads : List ℕ := List.replicate (fileCount entries) ROMFS_ENTRY_EMPTY

def links : List ((FileEntry × ℕ) × ℕ) :=
  linksOf (partitionOf entries).contexts (fileCount entries) (emptyHeads entries)
    (filesOf entries)

def heads : List ℕ :=
  headsAfter (partitionOf entries).contexts (fileCount entries) (emptyHeads entries)
    (filesOf entries)

def fileTableSize : ℕ := (entries.map entrySize).sum

def fileTable : Bytes :=
  overwriteAll (zeros (fileTableSize entries))
    ((links entries).map (recordItem (partitionOf entries).contexts))

def rootEntry : RomfsDirEntry where
  parent := 0
  sibling := ROMFS_ENTRY_EMPTY
  childDir := ROMFS_ENTRY_EMPTY
  childFile := entryOffsetOf (partitionOf entries).contexts (romfsVisitDir entries).childFileTree
  nextHash := ROMFS_ENTRY_EMPTY

def headerOf : RomfsHeader :=
  buildRomfsHeader (partitionOf entries).filePartitionSize (fileTableSize entries) 3
    (fileCount entries)

/-- The bucket of the root among the three is number zero. -/
def dirHashTable : List ℕ := [0, ROMFS_ENTRY_EMPTY, ROMFS_ENTRY_EMPTY]

def dataItem (file : FileEntry × ℕ) : ℕ × Bytes :=
  (((partitionOf entries).contexts file.2).offset + ROMFS_FILEPARTITION_OFS, file.1.data)

def tableItems : List (ℕ × Bytes) :=
  [((headerOf entries).dirHashTableOff, tableBytes dirHashTable),
    ((headerOf entries).dirTableOff, (rootEntry entries).bytes),
    ((headerOf entries).fileHashTableOff, tableBytes (heads entries)),
    ((headerOf entries).fileTableOff, fileTable entries)]

def imageOf : Bytes :=
  overwriteAll []
    ((0, (headerOf entries).bytes) :: ((filesOf entries).map (dataItem entries) ++
      tableItems entries))

end

lemma foldl_writeFile (contexts : ℕ → RomfsFileContext) (files : List (FileEntry × ℕ))
    (buf : BufHelper) :
    (files.foldl (writeFile contexts) buf).buf = overwriteAll buf.buf
      (files.map fun f => ((contexts f.2).offset + ROMFS_FILEPARTITION_OFS, f.1.data)) := by
  induction files generalizing buf with
  | nil => rfl
  | cons file files ih =>
    rw [List.foldl_cons, ih]
    rfl

lemma length_tableBytes (table : List ℕ) : (tableBytes table).length = 4 * table.length :=
  length_flatMap_of_length fun x _ => length_le 4 x

lemma length_heads : (heads entries).length = fileCount entries := by
  rw [heads, length_headsAfter, emptyHeads, List.length_replicate]

lemma length_rootEntry (e : RomfsDirEntry) : e.bytes.length = 24 := by
  simp [RomfsDirEntry.bytes]

/-- The tables are written one behind the other. -/
lemma tableItems_eq (entries : FileEntries) :
    tableItems entries =
      [((headerOf entries).dirHashTableOff, tableBytes dirHashTable),
        ((headerOf entries).dirHashTableOff + (tableBytes dirHashTable).length,
          (rootEntry entries).bytes),
        ((headerOf entries).dirHashTableOff + (tableBytes dirHashTable).length +
          (rootEntry entries).bytes.length, tableBytes (heads entries)),
        ((headerOf entries).dirHashTableOff + (tableBytes dirHashTable).length +
          (rootEntry entries).bytes.length + (tableBytes (heads entries)).length,
          fileTable entries)] := by
  rw [length_tableBytes, length_rootEntry, length_tableBytes, length_heads]
  rfl

lemma buildRomfsIntoFile_eq (entries : FileEntries) :
    buildRomfsIntoFile entries = some (imageOf entries) := by
  have hvisited := visited_romfsVisitDir entries
  have hwalk := walk_of_linked hvisited.files
  rw [length_visitOrder] at hwalk
  have hroot : (calcPathHash 0 [] 0 0).toNat % 3 = 0 := by decide
  have hcount : romfsGetHashTableCount 1 = 3 := by decide
  have hempty : (List.replicate 3 ROMFS_ENTRY_EMPTY).getD 0 0 = ROMFS_ENTRY_EMPTY := rfl
  have htable : (List.replicate 3 ROMFS_ENTRY_EMPTY).set 0 0 = dirHashTable := rfl
  unfold buildRomfsIntoFile
  dsimp only
  rw [hwalk, Option.map_some, hvisited.numFiles, hvisited.fileTableSize, foldl_enter, hcount,
    hroot, hempty, htable]
  refine congrArg some ?_
  have hdata := foldl_writeFile (partitionOf entries).contexts (filesOf entries)
    (({} : BufHelper).write (headerOf entries).bytes)
  have himage : imageOf entries = overwriteAll (overwriteAll
      (({} : BufHelper).write (headerOf entries).bytes).buf
      ((filesOf entries).map (dataItem entries))) (tableItems entries) := by
    rw [← overwriteAll_append]
    rfl
  rw [himage, tableItems_eq]
  unfold dataItem
  rw [← hdata]
  rfl

lemma buildRomfs_eq (entries : FileEntries) :
    buildRomfs entries =
      some ((imageOf entries).length, padded IVFC_HASH_BLOCK_SIZE (imageOf entries)) := by
  rw [buildRomfs, buildRomfsIntoFile_eq, Option.map_some, padRomfs_eq]

/-! ## Where the parts lie -/

lemma map_fst_filesOf (entries : FileEntries) : (filesOf entries).map Prod.fst = entries := by
  rw [filesOf, List.map_fst_zip]
  rw [length_visitOrder]

lemma map_snd_filesOf (entries : FileEntries) :
    (filesOf entries).map Prod.snd = visitOrder entries.length := by
  rw [filesOf, List.map_snd_zip]
  rw [length_visitOrder]

lemma laid_partitionOf (entries : FileEntries) :
    Laid { contexts := (romfsVisitDir entries).contexts } (partitionOf entries)
      (filesOf entries) := by
  apply laid_place
  rw [map_snd_filesOf]
  exact nodup_visitOrder _

lemma total_partitionOf (entries : FileEntries) :
    (partitionOf entries).entryOffset = fileTableSize entries := by
  have hsizes : (filesOf entries).map (fun f => entrySize f.1) =
      ((filesOf entries).map Prod.fst).map entrySize := by rw [List.map_map]; rfl
  rw [(laid_partitionOf entries).total, hsizes, map_fst_filesOf, Nat.zero_add]
  rfl

lemma length_record (contexts : ℕ → RomfsFileContext) (link : (FileEntry × ℕ) × ℕ) :
    (recordItem contexts link).2.length = 32 + nameSize link.1.1 := by
  rw [recordItem, RomfsFileEntry.length_bytes, recordOf, length_slice]
  unfold nameSize
  omega

lemma length_record_le (contexts : ℕ → RomfsFileContext) (link : (FileEntry × ℕ) × ℕ) :
    (recordItem contexts link).2.length ≤ entrySize link.1.1 := by
  have halign := le_align64 (nameSize link.1.1) (show 0 < 4 by omega)
  rw [length_record]
  exact Nat.add_le_add_left halign 32

lemma map_fst_links (entries : FileEntries) : (links entries).map Prod.fst = filesOf entries :=
  map_fst_linksOf ..

lemma mem_filesOf_of_link {link : (FileEntry × ℕ) × ℕ} (h : link ∈ links entries) :
    link.1 ∈ filesOf entries := by
  rw [← map_fst_links]
  exact List.mem_map_of_mem h

lemma length_fileTable (entries : FileEntries) :
    (fileTable entries).length = fileTableSize entries := by
  have hlaid := laid_partitionOf entries
  have htotal := total_partitionOf entries
  unfold fileTable
  rw [length_overwriteAll_of_le, length_zeros]
  intro item hitem
  obtain ⟨link, hlink, rfl⟩ := List.mem_map.mp hitem
  have hwithin := (hlaid.recordWithin _ (mem_filesOf_of_link hlink)).2
  have hlength := length_record_le (partitionOf entries).contexts link
  rw [length_zeros, ← htotal]
  exact (Nat.add_le_add_left hlength _).trans hwithin

/-- Each record is found at the offset of its context. -/
lemma slice_fileTable {link : (FileEntry × ℕ) × ℕ} (h : link ∈ links entries) :
    slice (fileTable entries) ((partitionOf entries).contexts link.1.2).entryOffset
        (recordOf (partitionOf entries).contexts link.1 link.2).bytes.length =
      (recordOf (partitionOf entries).contexts link.1 link.2).bytes := by
  have hrecords := (laid_partitionOf entries).records
  rw [← map_fst_links, List.pairwise_map] at hrecords
  refine @slice_overwriteAll_of_pairwise _ _ _ _ (recordItem _ link) ?_ (List.mem_map_of_mem h)
  rw [List.pairwise_map]
  refine hrecords.imp fun {x y} hle => le_trans ?_ hle
  exact Nat.add_le_add_left (length_record_le _ x) _

lemma length_romfsHeader (h : RomfsHeader) : h.bytes.length = 80 := by
  simp [RomfsHeader.bytes]

lemma partition_le (entries : FileEntries) :
    (partitionOf entries).filePartitionSize + 0x200 ≤ (headerOf entries).dirHashTableOff :=
  le_align64 _ (by omega)

lemma imageOf_eq (entries : FileEntries) :
    imageOf entries = overwriteAll (overwriteAll []
      ((0, (headerOf entries).bytes) :: (filesOf entries).map (dataItem entries)))
      (tableItems entries) := by
  rw [← overwriteAll_append]
  rfl

/-- The header, and the tables one behind the other, lie as they were written. -/
lemma pairwise_tableItems (entries : FileEntries) :
    (tableItems entries).Pairwise fun x y => x.1 + x.2.length ≤ y.1 := by
  rw [tableItems_eq]
  simp only [List.pairwise_cons, List.mem_cons, List.not_mem_nil, or_false, forall_eq_or_imp,
    forall_eq, List.Pairwise.nil, IsEmpty.forall_iff, implies_true, and_true]
  omega

lemma slice_tableItems {item : ℕ × Bytes} (h : item ∈ tableItems entries) :
    slice (imageOf entries) item.1 item.2.length = item.2 := by
  rw [imageOf_eq]
  exact slice_overwriteAll_of_pairwise (pairwise_tableItems entries) h

lemma tableItems_le {item : ℕ × Bytes} (h : item ∈ tableItems entries) :
    item.1 + item.2.length ≤ (imageOf entries).length := by
  rw [imageOf_eq]
  exact le_length_overwriteAll.2 item h

lemma tableItems_ge {item : ℕ × Bytes} (h : item ∈ tableItems entries) :
    (headerOf entries).dirHashTableOff ≤ item.1 := by
  rw [tableItems_eq] at h
  simp only [List.mem_cons, List.not_mem_nil, or_false] at h
  obtain rfl | rfl | rfl | rfl := h <;> dsimp only <;> omega

lemma header_before {item : ℕ × Bytes}
    (h : item ∈ (filesOf entries).map (dataItem entries) ++ tableItems entries) :
    0 + (headerOf entries).bytes.length ≤ item.1 := by
  have hpartition := partition_le entries
  rw [length_romfsHeader]
  obtain hdata | htable := List.mem_append.mp h
  · obtain ⟨f, _, rfl⟩ := List.mem_map.mp hdata
    show 0 + 80 ≤ _ + 0x200
    omega
  · have hge := tableItems_ge htable
    omega

lemma slice_header (entries : FileEntries) :
    slice (imageOf entries) 0 (headerOf entries).bytes.length = (headerOf entries).bytes :=
  @slice_overwriteAll _ _ _ [] _ (0, (headerOf entries).bytes) fun _ hx =>
    header_before hx

/-- Data of the recorded size stays as it was written. -/
lemma slice_data (hsizes : ∀ f ∈ filesOf entries,
      ((partitionOf entries).contexts f.2).size = f.1.data.length) {file : FileEntry × ℕ}
    (h : file ∈ filesOf entries) :
    slice (imageOf entries) (((partitionOf entries).contexts file.2).offset + 0x200)
      file.1.data.length = file.1.data := by
  have hlaid := laid_partitionOf entries
  have hpartition := partition_le entries
  refine @slice_overwriteAll_of_pairwise _ _ _ _ (dataItem entries file) ?_ ?_
  · refine List.pairwise_cons.mpr ⟨fun x hx => header_before hx,
      List.pairwise_append.mpr ⟨?_, pairwise_tableItems entries, ?_⟩⟩
    · rw [List.pairwise_map]
      refine hlaid.data.imp_of_mem fun {f g} hf _ hle => ?_
      rw [hsizes f hf] at hle
      unfold dataItem
      dsimp only
      omega
    · intro x hx y hy
      obtain ⟨f, hf, rfl⟩ := List.mem_map.mp hx
      have hwithin := (hlaid.dataWithin f hf).2
      have hge := tableItems_ge hy
      rw [hsizes f hf] at hwithin
      unfold dataItem ROMFS_FILEPARTITION_OFS
      dsimp only
      omega
  · exact List.mem_cons_of_mem _ (List.mem_append_left _ (List.mem_map_of_mem h))

end ArtemisSwitch.Forwarder
