import ArtemisSwitch.Library.ByteLayout
import ArtemisSwitch.Transport

/-!
# The NCA of a forwarder

`createProgramNca` with the functions that lay out its sections: PFS0 file systems under one
level of hashes, and a RomFS image under five.  The header is left in the clear.
-/

namespace ArtemisSwitch.Forwarder
open ByteLayout

abbrev Hash := { h : Bytes // h.length = 32 }

def zeros (n : ℕ) : Bytes := List.replicate n 0

@[simp] lemma length_zeros (n : ℕ) : (zeros n).length = n := List.length_replicate

/-! ## BufHelper -/

structure BufHelper where
  buf : Bytes := []
  offset : ℕ := 0

namespace BufHelper

def write (b : BufHelper) (data : Bytes) : BufHelper :=
  ⟨overwrite b.buf b.offset data, b.offset + data.length⟩

def seek (b : BufHelper) (whereTo : ℕ) : BufHelper := { b with offset := whereTo }

end BufHelper

/-- A full block is written where nothing is missing. -/
def writePadding (b : BufHelper) (off block : ℕ) : BufHelper × ℕ :=
  let size := block - off % block
  (if size ≠ 0 then b.write (zeros size) else b, size)

/-! ## File entries -/

structure FileEntry where
  name : Bytes
  data : Bytes
  deriving DecidableEq

abbrev FileEntries := List FileEntry

/-- What a `const char*` points to. -/
abbrev CString := { s : Bytes // 0 ∉ s }

def addFileEntry (entries : FileEntries) (name : CString) (data : Bytes) : FileEntries :=
  entries ++ [⟨name.1, data⟩]

def addFileEntries (files : List (CString × Bytes)) : FileEntries :=
  files.foldl (fun entries file => addFileEntry entries file.1 file.2) []

/-! ## PFS0 -/

structure Pfs0Header where
  magic : UInt32 := 0x30534650
  totalFiles : UInt32
  stringTableSize : UInt32
  padding : UInt32 := 0

def Pfs0Header.bytes (h : Pfs0Header) : Bytes :=
  le 4 h.magic.toNat ++ le 4 h.totalFiles.toNat ++ le 4 h.stringTableSize.toNat ++
    le 4 h.padding.toNat

structure Pfs0FileTable where
  dataOffset : UInt64
  dataSize : UInt64
  nameOffset : UInt32
  padding : UInt32 := 0

def Pfs0FileTable.bytes (t : Pfs0FileTable) : Bytes :=
  le 8 t.dataOffset.toNat ++ le 8 t.dataSize.toNat ++ le 4 t.nameOffset.toNat ++
    le 4 t.padding.toNat

/-- The variables of the loop over the entries. -/
structure Pfs0Tables where
  fileTable : List Pfs0FileTable := []
  stringTable : Bytes := []
  stringOffset : ℕ := 0
  dataOffset : ℕ := 0

def Pfs0Tables.add (t : Pfs0Tables) (entry : FileEntry) : Pfs0Tables where
  fileTable := t.fileTable ++
    [⟨.ofNat t.dataOffset, .ofNat entry.data.length, .ofNat t.stringOffset, 0⟩]
  stringTable := overwrite t.stringTable t.stringOffset (entry.name ++ [0])
  stringOffset := t.stringOffset + entry.name.length + 1
  dataOffset := t.dataOffset + entry.data.length

/-- `(size + 0x1F) & ~0x1F`. -/
def stringTableSize (size : ℕ) : ℕ := (size + 0x1F) / 0x20 * 0x20

def buildPfs0 (entries : FileEntries) : Bytes :=
  let tables := entries.foldl Pfs0Tables.add {}
  let size := stringTableSize tables.stringTable.length
  let stringTable := tables.stringTable ++ zeros (size - tables.stringTable.length)
  let header : Pfs0Header :=
    { totalFiles := .ofNat entries.length, stringTableSize := .ofNat stringTable.length }
  let buf := ((({} : BufHelper).write header.bytes).write
    (tables.fileTable.flatMap Pfs0FileTable.bytes)).write stringTable
  (entries.foldl (fun buf entry => buf.write entry.data) buf).buf

/-! ## Hash tables -/

section
variable (sha256 : Bytes → Hash)

/-- The loop over the blocks: `i` has 32 bits, and the sum in the test has `width`. -/
def hashLoop (width : ℕ) (src : Bytes) : ℕ → ℕ → ℕ → BufHelper → Option BufHelper
  | 0, _, _, _ => none
  | fuel + 1, i, readSize, buf =>
    if i < src.length then
      let readSize :=
        if (i + readSize) % 2 ^ width ≥ src.length then src.length - i else readSize
      hashLoop width src fuel ((i + readSize) % 2 ^ 32) readSize
        (buf.write (sha256 (slice src i readSize)).1)
    else some buf

def buildPfs0HashTable (pfs0 : Bytes) (blockSize : UInt32) : Option Bytes :=
  (hashLoop sha256 32 pfs0 (pfs0.length + 1) 0 blockSize.toNat {}).map (·.buf)

def buildPfs0MasterHash (pfs0HashTable : Bytes) : Hash := sha256 pfs0HashTable

def IVFC_HASH_BLOCK_SIZE : ℕ := 0x4000

def createIvfcLevel (src : Bytes) : Option Bytes :=
  (hashLoop sha256 64 src (src.length + 1) 0 IVFC_HASH_BLOCK_SIZE {}).map fun buf =>
    (writePadding buf buf.offset IVFC_HASH_BLOCK_SIZE).1.buf

def buildIvfcMasterHash (level1 : Bytes) : Hash := sha256 level1

/-- `ivfc[0]` to the level above, `count` of them, and the top. -/
def ivfcLevels : ℕ → Bytes → Option (List Bytes)
  | 0, top => some [top]
  | count + 1, top => do
    let below ← createIvfcLevel sha256 top
    let levels ← ivfcLevels count below
    return levels ++ [top]

end

/-! ## The header -/

structure SectionTableEntry where
  mediaStartOffset : UInt32 := 0
  mediaEndOffset : UInt32 := 0
  x8 : UInt8 := 0

def SectionTableEntry.bytes (s : SectionTableEntry) : Bytes :=
  le 4 s.mediaStartOffset.toNat ++ le 4 s.mediaEndOffset.toNat ++ (s.x8 :: zeros 7)

structure LayerRegion where
  offset : UInt64 := 0
  size : UInt64 := 0

def LayerRegion.bytes (r : LayerRegion) : Bytes := le 8 r.offset.toNat ++ le 8 r.size.toNat

def noHash : Hash := ⟨zeros 32, length_zeros 32⟩

structure HierarchicalSha256Data where
  masterHash : Hash := noHash
  blockSize : UInt32 := 0
  layerCount : UInt32 := 0
  hashLayer : LayerRegion := {}
  pfs0Layer : LayerRegion := {}

def HierarchicalSha256Data.bytes (d : HierarchicalSha256Data) : Bytes :=
  d.masterHash.1 ++ le 4 d.blockSize.toNat ++ le 4 d.layerCount.toNat ++ d.hashLayer.bytes ++
    d.pfs0Layer.bytes ++ zeros 0xB0

/-! Levels and sections are named by numerals of `Fin 6` and `Fin 4`. -/

instance instNeZeroSix : NeZero 6 := ⟨by decide⟩

instance instNeZeroFour : NeZero 4 := ⟨by decide⟩

structure LevelInformation where
  logicalOffset : UInt64 := 0
  hashDataSize : UInt64 := 0
  blockSize : UInt32 := 0

def LevelInformation.bytes (l : LevelInformation) : Bytes :=
  le 8 l.logicalOffset.toNat ++ le 8 l.hashDataSize.toNat ++ le 4 l.blockSize.toNat ++ zeros 4

structure InfoLevelHash where
  maxLayers : UInt32 := 0
  levels : Fin 6 → LevelInformation := fun _ => {}

def InfoLevelHash.bytes (i : InfoLevelHash) : Bytes :=
  le 4 i.maxLayers.toNat ++ (List.ofFn i.levels).flatMap LevelInformation.bytes ++ zeros 0x20

structure IntegrityMetaInfo where
  magic : UInt32 := 0
  version : UInt32 := 0
  masterHashSize : UInt32 := 0
  infoLevelHash : InfoLevelHash := {}
  masterHash : Hash := noHash

def IntegrityMetaInfo.bytes (d : IntegrityMetaInfo) : Bytes :=
  le 4 d.magic.toNat ++ le 4 d.version.toNat ++ le 4 d.masterHashSize.toNat ++
    d.infoLevelHash.bytes ++ d.masterHash.1 ++ zeros 0x18

/-- The union: a section is written through one of the members. -/
inductive HashData
  | hierarchicalSha256Data (d : HierarchicalSha256Data)
  | integrityMetaInfo (d : IntegrityMetaInfo)

namespace HashData

def bytes : HashData → Bytes
  | .hierarchicalSha256Data d => d.bytes
  | .integrityMetaInfo d => d.bytes

def sha256Data : HashData → HierarchicalSha256Data
  | .hierarchicalSha256Data d => d
  | .integrityMetaInfo _ => {}

def metaInfo : HashData → IntegrityMetaInfo
  | .hierarchicalSha256Data _ => {}
  | .integrityMetaInfo d => d

end HashData

def FileSystemType_RomFS : UInt8 := 0x0
def FileSystemType_PFS0 : UInt8 := 0x1
def HashType_HierarchicalSha256 : UInt8 := 0x2
def HashType_HierarchicalIntegrity : UInt8 := 0x3
def EncryptionType_None : UInt8 := 0x1

structure FsHeader where
  version : UInt16 := 0
  fsType : UInt8 := 0
  hashType : UInt8 := 0
  encryptionType : UInt8 := 0
  hashData : HashData := .hierarchicalSha256Data {}

def FsHeader.bytes (h : FsHeader) : Bytes :=
  le 2 h.version.toNat ++ [h.fsType, h.hashType, h.encryptionType, 0, 0, 0] ++ h.hashData.bytes ++
    zeros 0x100

def NCA3_MAGIC : UInt32 := 0x3341434E

structure Header where
  magic : UInt32 := 0
  distributionType : UInt8 := 0
  contentType : UInt8 := 0
  size : UInt64 := 0
  programId : UInt64 := 0
  sdkVersion : UInt32 := 0
  fsTable : Fin 4 → SectionTableEntry := fun _ => {}
  fsHeaderHash : Fin 4 → Hash := fun _ => noHash
  fsHeader : Fin 4 → FsHeader := fun _ => {}

def Header.bytes (h : Header) : Bytes :=
  zeros 0x200 ++ le 4 h.magic.toNat ++ [h.distributionType, h.contentType, 0, 0] ++
    le 8 h.size.toNat ++ le 8 h.programId.toNat ++ zeros 4 ++ le 4 h.sdkVersion.toNat ++
    zeros 0x20 ++ (List.ofFn h.fsTable).flatMap SectionTableEntry.bytes ++
    (List.ofFn h.fsHeaderHash).flatMap (·.1) ++ zeros 0x100 ++
    (List.ofFn h.fsHeader).flatMap FsHeader.bytes

/-! ## Sections -/

section
variable (sha256 : Bytes → Hash)

def writeNcaPadding (b : BufHelper) : BufHelper := (writePadding b b.offset 0x200).1

def writeNcaSection (h : Header) (index : Fin 4) (start stop : ℕ) : Header :=
  { h with
    fsTable := Function.update h.fsTable index
      { mediaStartOffset := .ofNat (start / 0x200)
        mediaEndOffset := .ofNat (stop / 0x200)
        x8 := 0x1 } }

/-- The product has 32 bits. -/
def sectionStart (h : Header) (index : Fin 4) : ℕ :=
  if index = 0 then 0xC00 else ((h.fsTable (index - 1)).mediaEndOffset * 0x200).toNat

/-- The end of both `writeNcaFsHeader` functions: the hash of the header as it is by then. -/
def hashFsHeader (h : Header) (index : Fin 4) (fsHeader : FsHeader) : Header :=
  { h with
    fsHeader := Function.update h.fsHeader index fsHeader
    fsHeaderHash := Function.update h.fsHeaderHash index (sha256 fsHeader.bytes) }

def writeNcaFsHeaderPfs0 (h : Header) (index : Fin 4) (masterHash : Hash) (hashTableSize : ℕ)
    (blockSize : UInt32) : Header :=
  let fsHeader := h.fsHeader index
  let data := fsHeader.hashData.sha256Data
  hashFsHeader sha256 h index
    { fsHeader with
      hashType := HashType_HierarchicalSha256
      fsType := FileSystemType_PFS0
      version := 0x2
      encryptionType := EncryptionType_None
      hashData := .hierarchicalSha256Data
        { data with
          layerCount := 0x2
          blockSize := blockSize
          hashLayer := { data.hashLayer with size := .ofNat hashTableSize }
          masterHash := masterHash } }

def writeNcaFsHeaderRomfs (h : Header) (index : Fin 4) : Header :=
  let fsHeader := h.fsHeader index
  let info := fsHeader.hashData.metaInfo
  let levels := info.infoLevelHash.levels
  hashFsHeader sha256 h index
    { fsHeader with
      hashType := HashType_HierarchicalIntegrity
      fsType := FileSystemType_RomFS
      version := 0x2
      encryptionType := EncryptionType_None
      hashData := .integrityMetaInfo
        { info with
          magic := 0x43465649
          version := 0x20000
          masterHashSize := 32
          infoLevelHash :=
            { maxLayers := 0x7
              levels := Function.update levels 5 { levels 5 with blockSize := 0x0E } } } }

def PFS0_PADDING_SIZE : ℕ := 0x200

def writeNcaPfs0 (h : Header) (index : Fin 4) (entries : FileEntries) (blockSize : UInt32)
    (buf : BufHelper) : Option (Header × BufHelper) := do
  let pfs0 := buildPfs0 entries
  let pfs0HashTable ← buildPfs0HashTable sha256 pfs0 blockSize
  let pfs0MasterHash := buildPfs0MasterHash sha256 pfs0HashTable
  let (buf, paddingSize) :=
    writePadding (buf.write pfs0HashTable) pfs0HashTable.length PFS0_PADDING_SIZE
  let fsHeader := h.fsHeader index
  let h := { h with
    fsHeader := Function.update h.fsHeader index
      { fsHeader with
        hashData := .hierarchicalSha256Data
          { fsHeader.hashData.sha256Data with
            pfs0Layer := ⟨.ofNat (pfs0HashTable.length + paddingSize), .ofNat pfs0.length⟩ } } }
  let buf := writeNcaPadding (buf.write pfs0)
  let h := writeNcaSection h index (sectionStart h index) buf.offset
  return (writeNcaFsHeaderPfs0 sha256 h index pfs0MasterHash pfs0HashTable.length blockSize, buf)

/-- The end of `buildRomfs`: the size of the image, and the image with its padding. -/
def padRomfs (image : Bytes) : ℕ × Bytes :=
  let buf : BufHelper := { buf := image, offset := image.length }
  (buf.offset, (writePadding buf buf.offset IVFC_HASH_BLOCK_SIZE).1.buf)

/-- `levels[level].logical_offset` by way of the level before. -/
def logicalOffset (hashDataSize : ℕ → UInt64) : ℕ → UInt64
  | 0 => 0
  | level + 1 => logicalOffset hashDataSize level + hashDataSize level

/-- The size of a level; that of the image leaves its padding out. -/
def hashDataSize (outSize : ℕ) (ivfc : List Bytes) (level : ℕ) : UInt64 :=
  if level = 5 then .ofNat outSize else .ofNat (ivfc.getD level []).length

def levelInformation (outSize : ℕ) (ivfc : List Bytes) (level : Fin 6) : LevelInformation where
  logicalOffset := logicalOffset (hashDataSize outSize ivfc) level
  hashDataSize := hashDataSize outSize ivfc level
  blockSize := if level = 5 then 0 else 0x0E

/-- `image` is what `buildRomfs` puts into its buffer. -/
def writeNcaRomfs (h : Header) (index : Fin 4) (image : Bytes) (buf : BufHelper) :
    Option (Header × BufHelper) := do
  let (outSize, padded) := padRomfs image
  let ivfc ← ivfcLevels sha256 5 padded
  let buf := writeNcaPadding (ivfc.foldl BufHelper.write buf)
  let fsHeader := h.fsHeader index
  let info := fsHeader.hashData.metaInfo
  let h := { h with
    fsHeader := Function.update h.fsHeader index
      { fsHeader with
        hashData := .integrityMetaInfo
          { info with
            infoLevelHash := { info.infoLevelHash with levels := levelInformation outSize ivfc }
            masterHash := buildIvfcMasterHash sha256 (ivfc.getD 0 []) } } }
  let h := writeNcaSection h index (sectionStart h index) buf.offset
  return (writeNcaFsHeaderRomfs sha256 h index, buf)

/-! ## The whole file -/

def DistributionType_System : UInt8 := 0x0
def ContentType_Program : UInt8 := 0x0

def finalizeNcaHeader (h : Header) (tid : UInt64) (type : UInt8) (buf : BufHelper) :
    Header × BufHelper :=
  let h := { h with
    magic := NCA3_MAGIC
    distributionType := DistributionType_System
    contentType := type
    programId := tid
    sdkVersion := 0x000C1100
    size := .ofNat buf.offset }
  (h, (buf.seek 0).write h.bytes)

def PFS0_EXEFS_HASH_BLOCK_SIZE : UInt32 := 0x10000
def PFS0_LOGO_HASH_BLOCK_SIZE : UInt32 := 0x1000

/-- Both files of the logo, and neither is empty. -/
def hasLogo (logo : FileEntries) : Bool :=
  match logo with
  | [first, second] => first.data ≠ [] && second.data ≠ []
  | _ => false

/-- The final header beside the file. -/
def createProgramNca (tid : UInt64) (exefs : FileEntries) (image : Bytes) (logo : FileEntries) :
    Option (Header × BufHelper) := do
  let h : Header := {}
  let buf := ({} : BufHelper).write h.bytes
  let (h, buf) ← writeNcaPfs0 sha256 h 0 exefs PFS0_EXEFS_HASH_BLOCK_SIZE buf
  let (h, buf) ← writeNcaRomfs sha256 h 1 image buf
  let (h, buf) ←
    if hasLogo logo then writeNcaPfs0 sha256 h 2 logo PFS0_LOGO_HASH_BLOCK_SIZE buf
    else some (h, buf)
  return finalizeNcaHeader h tid ContentType_Program buf

end

end ArtemisSwitch.Forwarder
