import ArtemisSwitch.ForwarderNca

/-!
# The RomFS image of a forwarder

`buildRomfs`: the files of the root directory, their table, and hash tables over the names.  A
context is named by the order of its allocation, and every allocation succeeds.  Below four
gigabytes no sum leaves its word, and the sums here do not wrap.
-/

namespace ArtemisSwitch.Forwarder
open ByteLayout

/-! ## Helpers -/

/-- For an alignment that is a power of two. -/
def align32 (offset alignment : ℕ) : ℕ := (offset + (alignment - 1)) / alignment * alignment

def align64 (offset alignment : ℕ) : ℕ := (offset + (alignment - 1)) / alignment * alignment

def calcPathHash (parent : UInt32) (path : Bytes) (start pathLen : ℕ) : UInt32 :=
  (slice path start pathLen).foldl (fun hash c => ((hash >>> 5) ||| (hash <<< 27)) ^^^ c.toUInt32)
    (parent ^^^ 123456789)

def hasSmallFactor (count : ℕ) : Bool :=
  count % 2 = 0 || count % 3 = 0 || count % 5 = 0 || count % 7 = 0 || count % 11 = 0 ||
    count % 13 = 0 || count % 17 = 0

/-- One past a multiple of the product of the primes ends the loop. -/
def nextCount (count : ℕ) : ℕ := if hasSmallFactor count then nextCount (count + 1) else count
termination_by (510510 - (count + 510509) % 510510) % 510510
decreasing_by
  rename_i h
  simp only [hasSmallFactor, Bool.or_eq_true, decide_eq_true_eq] at h
  omega

def romfsGetHashTableCount (numEntries : ℕ) : ℕ :=
  if numEntries < 3 then 3 else if numEntries < 19 then numEntries ||| 1 else nextCount numEntries

def ROMFS_ENTRY_EMPTY : ℕ := 0xFFFFFFFF
def ROMFS_FILEPARTITION_OFS : ℕ := 0x200

/-! ## Contexts -/

structure RomfsFileContext where
  entryOffset : ℕ := 0
  offset : ℕ := 0
  size : ℕ := 0
  sibling : Option ℕ := none
  next : Option ℕ := none

structure RomfsContext where
  contexts : ℕ → RomfsFileContext := fun _ => {}
  files : Option ℕ := none
  numFiles : ℕ := 0
  fileTableSize : ℕ := 0
  /-- `child_file_tree`, which becomes the `file` of the root. -/
  childFileTree : Option ℕ := none

def nameSize (entry : FileEntry) : ℕ := entry.name.length - 1

/-- `sizeof(RomfsFileEntry) + align32(name.length() - 1, 4)`. -/
def entrySize (entry : FileEntry) : ℕ := 32 + align32 (nameSize entry) 4

/-- Both lists take the new context behind their head. -/
def visitFile (r : RomfsContext) (entry : FileEntry) : RomfsContext :=
  let curFile := r.numFiles
  let contexts := Function.update r.contexts curFile { size := entry.data.length }
  let contexts := match r.childFileTree with
    | none => contexts
    | some prev =>
      let child := (contexts prev).sibling
      let contexts := Function.update contexts prev
        { contexts prev with sibling := some curFile }
      Function.update contexts curFile { contexts curFile with sibling := child }
  let contexts := match r.files with
    | none => contexts
    | some prev =>
      let child := (contexts prev).next
      let contexts := Function.update contexts prev { contexts prev with next := some curFile }
      Function.update contexts curFile { contexts curFile with next := child }
  { contexts := contexts
    files := some (r.files.getD curFile)
    numFiles := r.numFiles + 1
    fileTableSize := r.fileTableSize + entrySize entry
    childFileTree := some (r.childFileTree.getD curFile) }

def romfsVisitDir (entries : FileEntries) : RomfsContext := entries.foldl visitFile {}

/-- The contexts that a loop over the entries steps through, unless it steps off the list. -/
def walk (contexts : ℕ → RomfsFileContext) : ℕ → Option ℕ → Option (List ℕ)
  | 0, _ => some []
  | _ + 1, none => none
  | n + 1, some curFile => (walk contexts n (contexts curFile).next).map (curFile :: ·)

/-! ## The loops over the entries -/

structure Partition where
  contexts : ℕ → RomfsFileContext
  filePartitionSize : ℕ := 0
  entryOffset : ℕ := 0

def Partition.place (p : Partition) (file : FileEntry × ℕ) : Partition :=
  let offset := align64 p.filePartitionSize 0x10
  let curFile := p.contexts file.2
  { contexts := Function.update p.contexts file.2
      { curFile with offset := offset, entryOffset := p.entryOffset }
    filePartitionSize := offset + curFile.size
    entryOffset := p.entryOffset + entrySize file.1 }

structure RomfsFileEntry where
  parent : ℕ
  sibling : ℕ
  dataOff : ℕ
  dataSize : ℕ
  nextHash : ℕ
  name : Bytes

def RomfsFileEntry.bytes (e : RomfsFileEntry) : Bytes :=
  le 4 e.parent ++ (le 4 e.sibling ++ (le 8 e.dataOff ++ (le 8 e.dataSize ++ (le 4 e.nextHash ++
    (le 4 e.name.length ++ e.name)))))

def entryOffsetOf (contexts : ℕ → RomfsFileContext) : Option ℕ → ℕ
  | none => ROMFS_ENTRY_EMPTY
  | some curFile => (contexts curFile).entryOffset

structure FileTables where
  fileTable : Bytes
  fileHashTable : List ℕ

/-- The root has the entry offset zero. -/
def bucket (count : ℕ) (name : Bytes) : ℕ :=
  (calcPathHash 0 name 1 (name.length - 1)).toNat % count

def FileTables.enter (contexts : ℕ → RomfsFileContext) (count : ℕ) (t : FileTables)
    (file : FileEntry × ℕ) : FileTables :=
  let curFile := contexts file.2
  let slot := bucket count file.1.name
  let entry : RomfsFileEntry :=
    { parent := 0
      sibling := entryOffsetOf contexts curFile.sibling
      dataOff := curFile.offset
      dataSize := curFile.size
      nextHash := t.fileHashTable.getD slot 0
      name := slice file.1.name 1 (nameSize file.1) }
  { fileTable := overwrite t.fileTable curFile.entryOffset entry.bytes
    fileHashTable := t.fileHashTable.set slot curFile.entryOffset }

structure RomfsDirEntry where
  parent : ℕ
  sibling : ℕ
  childDir : ℕ
  childFile : ℕ
  nextHash : ℕ

/-- The name of the root is empty. -/
def RomfsDirEntry.bytes (e : RomfsDirEntry) : Bytes :=
  le 4 e.parent ++ (le 4 e.sibling ++ (le 4 e.childDir ++ (le 4 e.childFile ++
    (le 4 e.nextHash ++ le 4 0))))

structure RomfsHeader where
  dirHashTableOff : ℕ
  dirHashTableSize : ℕ
  dirTableOff : ℕ
  dirTableSize : ℕ
  fileHashTableOff : ℕ
  fileHashTableSize : ℕ
  fileTableOff : ℕ
  fileTableSize : ℕ
  fileDataOff : ℕ

def RomfsHeader.bytes (h : RomfsHeader) : Bytes :=
  le 8 80 ++ (le 8 h.dirHashTableOff ++ (le 8 h.dirHashTableSize ++ (le 8 h.dirTableOff ++
    (le 8 h.dirTableSize ++ (le 8 h.fileHashTableOff ++ (le 8 h.fileHashTableSize ++
      (le 8 h.fileTableOff ++ (le 8 h.fileTableSize ++ le 8 h.fileDataOff))))))))

def tableBytes (table : List ℕ) : Bytes := table.flatMap (le 4)

/-- Where the tables come to lie behind the files. -/
def buildRomfsHeader (filePartitionSize fileTableSize dirCount fileCount : ℕ) : RomfsHeader :=
  let dirHashTableOff := align64 (filePartitionSize + ROMFS_FILEPARTITION_OFS) 4
  let dirTableOff := dirHashTableOff + 4 * dirCount
  let fileHashTableOff := dirTableOff + 24
  { dirHashTableOff := dirHashTableOff
    dirHashTableSize := 4 * dirCount
    dirTableOff := dirTableOff
    dirTableSize := 24
    fileHashTableOff := fileHashTableOff
    fileHashTableSize := 4 * fileCount
    fileTableOff := fileHashTableOff + 4 * fileCount
    fileTableSize := fileTableSize
    fileDataOff := ROMFS_FILEPARTITION_OFS }

def writeFile (contexts : ℕ → RomfsFileContext) (buf : BufHelper) (file : FileEntry × ℕ) :
    BufHelper :=
  (buf.seek ((contexts file.2).offset + ROMFS_FILEPARTITION_OFS)).write file.1.data

/-- The image; `none` is a step through a null pointer. -/
def buildRomfsIntoFile (entries : FileEntries) : Option Bytes :=
  let r := romfsVisitDir entries
  let dirCount := romfsGetHashTableCount 1
  let fileCount := romfsGetHashTableCount r.numFiles
  (walk r.contexts entries.length r.files).map fun curFiles =>
    let files := entries.zip curFiles
    let p := files.foldl Partition.place { contexts := r.contexts }
    let t := files.foldl (FileTables.enter p.contexts fileCount)
      { fileTable := zeros r.fileTableSize
        fileHashTable := List.replicate fileCount ROMFS_ENTRY_EMPTY }
    let slot := (calcPathHash 0 [] 0 0).toNat % dirCount
    let root : RomfsDirEntry :=
      { parent := 0
        sibling := ROMFS_ENTRY_EMPTY
        childDir := ROMFS_ENTRY_EMPTY
        childFile := entryOffsetOf p.contexts r.childFileTree
        nextHash := (List.replicate dirCount ROMFS_ENTRY_EMPTY).getD slot 0 }
    let dirHashTable := (List.replicate dirCount ROMFS_ENTRY_EMPTY).set slot 0
    let header := buildRomfsHeader p.filePartitionSize r.fileTableSize dirCount fileCount
    let buf := files.foldl (writeFile p.contexts) (({} : BufHelper).write header.bytes)
    (((((buf.seek header.dirHashTableOff).write (tableBytes dirHashTable)).write
      root.bytes).write (tableBytes t.fileHashTable)).write t.fileTable).buf

def buildRomfs (entries : FileEntries) : Option (ℕ × Bytes) :=
  (buildRomfsIntoFile entries).map padRomfs

end ArtemisSwitch.Forwarder
