import ArtemisSwitch.NcaIntegrity
import Mathlib.Data.Fin.VecNotation
import Mathlib.Tactic.FinCases
import Mathlib.Tactic.IntervalCases

/-!
# The meta NCA of a forwarder

`createMetaNca`: the CNMT that lists the program and the control NCA by their hashes, in an NCA
of its own, and the records that are stored beside it.  Headers are encrypted by a parameter.
-/

namespace ArtemisSwitch.Forwarder
open ByteLayout

/-! ## NCM records -/

abbrev ContentId := { i : Bytes // i.length = 16 }

/-- A content is named by the first half of its hash. -/
def contentIdOf (hash : Hash) : ContentId :=
  ⟨hash.1.take 16, by rw [List.length_take, hash.2]; rfl⟩

def noContentId : ContentId := ⟨zeros 16, length_zeros 16⟩

def NcmContentType_Meta : UInt8 := 0
def NcmContentType_Program : UInt8 := 1
def NcmContentType_Control : UInt8 := 3
def NcmContentMetaType_Application : UInt8 := 0x80
def NcmContentInstallType_Full : UInt8 := 0
def NcmStorageId_SdCard : UInt8 := 5

structure NcmContentInfo where
  contentId : ContentId := noContentId
  sizeLow : UInt32 := 0
  sizeHigh : UInt8 := 0
  attr : UInt8 := 0
  contentType : UInt8 := 0
  idOffset : UInt8 := 0
  deriving DecidableEq

/-- `ncmU64ToContentInfoSize`: the size has 40 bits. -/
def NcmContentInfo.withSize (info : NcmContentInfo) (size : ℕ) : NcmContentInfo :=
  { info with sizeLow := .ofNat size, sizeHigh := .ofNat (size / 2 ^ 32) }

def NcmContentInfo.size (info : NcmContentInfo) : ℕ :=
  info.sizeLow.toNat + info.sizeHigh.toNat * 2 ^ 32

/-- The fields behind the id, each with its width. -/
def NcmContentInfo.fields (info : NcmContentInfo) : List (ℕ × ℕ) :=
  [(4, info.sizeLow.toNat), (1, info.sizeHigh.toNat), (1, info.attr.toNat),
    (1, info.contentType.toNat), (1, info.idOffset.toNat)]

def NcmContentInfo.bytes (info : NcmContentInfo) : Bytes := info.contentId.1 ++ packed info.fields

structure NcmPackagedContentInfo where
  hash : Hash := noHash
  info : NcmContentInfo := {}
  deriving DecidableEq

def NcmPackagedContentInfo.bytes (p : NcmPackagedContentInfo) : Bytes := p.hash.1 ++ p.info.bytes

structure NcmContentMetaHeader where
  extendedHeaderSize : UInt16 := 0
  contentCount : UInt16 := 0
  contentMetaCount : UInt16 := 0
  attributes : UInt8 := 0
  storageId : UInt8 := 0
  deriving DecidableEq

def NcmContentMetaHeader.bytes (h : NcmContentMetaHeader) : Bytes :=
  packed [(2, h.extendedHeaderSize.toNat), (2, h.contentCount.toNat),
    (2, h.contentMetaCount.toNat), (1, h.attributes.toNat), (1, h.storageId.toNat)]

structure NcmApplicationMetaExtendedHeader where
  patchId : UInt64 := 0
  requiredSystemVersion : UInt32 := 0
  requiredApplicationVersion : UInt32 := 0
  deriving DecidableEq

def NcmApplicationMetaExtendedHeader.bytes (h : NcmApplicationMetaExtendedHeader) : Bytes :=
  packed [(8, h.patchId.toNat), (4, h.requiredSystemVersion.toNat),
    (4, h.requiredApplicationVersion.toNat)]

structure CnmtHeader where
  titleId : UInt64 := 0
  titleVersion : UInt32 := 0
  metaType : UInt8 := 0
  metaHeader : NcmContentMetaHeader := {}
  installType : UInt8 := 0
  requiredSysVersion : UInt32 := 0
  deriving DecidableEq

def CnmtHeader.bytes (h : CnmtHeader) : Bytes :=
  packed [(8, h.titleId.toNat), (4, h.titleVersion.toNat), (1, h.metaType.toNat), (1, 0)] ++
    h.metaHeader.bytes ++
    packed [(1, h.installType.toNat), (1, 0), (4, h.requiredSysVersion.toNat), (4, 0)]

structure NcmContentMetaKey where
  id : UInt64
  version : UInt32
  type : UInt8
  installType : UInt8
  deriving DecidableEq

structure ContentStorageRecord where
  key : NcmContentMetaKey
  storageId : UInt8
  deriving DecidableEq

structure ForwarderContentMetaData where
  header : NcmContentMetaHeader
  extended : NcmApplicationMetaExtendedHeader
  infos : Fin 3 → NcmContentInfo

/-! ## NCAs as contents -/

structure NcaEntry where
  data : Bytes
  type : UInt8
  hash : Hash
  deriving DecidableEq

structure NcaMetaEntry where
  ncaEntry : NcaEntry
  contentMetaHeader : NcmContentMetaHeader
  contentMetaKey : NcmContentMetaKey
  contentStorageRecord : ContentStorageRecord
  contentMetaData : ForwarderContentMetaData

section
variable (sha256 : Bytes → Hash) (encryptNcaHeader : Bytes → Bytes)

def NcaEntry.of (data : Bytes) (type : UInt8) : NcaEntry := ⟨data, type, sha256 data⟩

/-- The file with the header as `finalizeNcaHeader` writes it. -/
def sealNca (final : Header × BufHelper) : Bytes :=
  overwrite final.2.buf 0 (encryptNcaHeader final.1.bytes)

def ContentType_Meta : UInt8 := 0x1
def ContentType_Control : UInt8 := 0x2
def PFS0_META_HASH_BLOCK_SIZE : UInt32 := 0x1000

/-- `image` is what `buildRomfs` makes of the entries. -/
def createControlNca (tid : UInt64) (image : Bytes) : Option NcaEntry := do
  let h : Header := {}
  let (h, buf) ← writeNcaRomfs sha256 h 0 image (({} : BufHelper).write h.bytes)
  let final := finalizeNcaHeader h tid ContentType_Control buf
  return .of sha256 (sealNca encryptNcaHeader final) NcmContentType_Control

/-! ## The CNMT -/

def hexDigit (n : ℕ) : UInt8 := if n < 10 then .ofNat (48 + n) else .ofNat (55 + n)

/-- `%016lX`. -/
def hex16 (n : UInt64) : Bytes :=
  (List.range 16).reverse.map fun i => hexDigit (n.toNat / 16 ^ i % 16)

def cnmtName (tid : UInt64) : Bytes := ascii "Application_" ++ hex16 tid ++ ascii ".cnmt"

def cnmtHeader (tid : UInt64) (storageId : UInt8) : CnmtHeader where
  titleId := tid
  metaType := NcmContentMetaType_Application
  metaHeader :=
    { extendedHeaderSize := 16, contentCount := 2, contentMetaCount := 1, storageId := storageId }

def cnmtExtended (tid : UInt64) : NcmApplicationMetaExtendedHeader where
  patchId := tid ||| 0x800

def packagedContentInfo (nca : NcaEntry) : NcmPackagedContentInfo where
  hash := nca.hash
  info := NcmContentInfo.withSize
    { contentId := contentIdOf nca.hash, contentType := nca.type } nca.data.length

/-- The header, the extended header, a record for each NCA and an empty digest. -/
def cnmtBuf (tid : UInt64) (storageId : UInt8) (ncas : Fin 2 → NcaEntry) : BufHelper :=
  ((((({} : BufHelper).write (cnmtHeader tid storageId).bytes).write (cnmtExtended tid).bytes).write
    ((List.ofFn ncas).flatMap fun nca => (packagedContentInfo nca).bytes)).write (zeros 0x20))

lemma hexDigit_ne_zero {n : ℕ} (h : n < 16) : hexDigit n ≠ 0 := by
  interval_cases n <;> decide

lemma zero_notMem_cnmtName (tid : UInt64) : 0 ∉ cnmtName tid := by
  have hbefore : (0 : UInt8) ∉ ascii "Application_" := by decide
  have hbehind : (0 : UInt8) ∉ ascii ".cnmt" := by decide
  simp only [cnmtName, List.mem_append, not_or]
  refine ⟨⟨hbefore, fun hmem => ?_⟩, hbehind⟩
  obtain ⟨i, -, hzero⟩ := List.mem_map.mp hmem
  exact hexDigit_ne_zero (Nat.mod_lt _ (by decide)) hzero

def createMetaNca (tid : UInt64) (storageId : UInt8) (ncas : Fin 2 → NcaEntry) :
    Option NcaMetaEntry := do
  let cnmt := (cnmtBuf tid storageId ncas).buf
  let entries := addFileEntry [] ⟨cnmtName tid, zero_notMem_cnmtName tid⟩ cnmt
  let h : Header := {}
  let buf := ({} : BufHelper).write h.bytes
  let (h, buf) ← writeNcaPfs0 sha256 h 0 entries PFS0_META_HASH_BLOCK_SIZE buf
  let final := finalizeNcaHeader h tid ContentType_Meta buf
  let ncaEntry := NcaEntry.of sha256 (sealNca encryptNcaHeader final) NcmContentType_Meta
  let header := cnmtHeader tid storageId
  let contentMetaHeader :=
    { header.metaHeader with contentCount := header.metaHeader.contentCount + 1, storageId := 0 }
  let key : NcmContentMetaKey :=
    ⟨header.titleId, header.titleVersion, header.metaType, NcmContentInstallType_Full⟩
  return {
    ncaEntry := ncaEntry
    contentMetaHeader := contentMetaHeader
    contentMetaKey := key
    contentStorageRecord := ⟨key, storageId⟩
    contentMetaData :=
      { header := contentMetaHeader
        extended := cnmtExtended tid
        -- the size is that of the CNMT, and not of the NCA around it
        infos := ![NcmContentInfo.withSize
            { contentId := contentIdOf ncaEntry.hash, contentType := ncaEntry.type } cnmt.length,
          (packagedContentInfo (ncas 0)).info, (packagedContentInfo (ncas 1)).info] } }

end

/-! ## Reading the CNMT -/

/-- What a CNMT says of one content. -/
structure Listed where
  hash : Bytes
  contentId : Bytes
  size : ℕ
  type : ℕ
  deriving DecidableEq

def readListed (record : Bytes) : Listed where
  hash := slice record 0 32
  contentId := slice record 32 16
  size := field record 48 4 + field record 52 1 * 2 ^ 32
  type := field record 54 1

/-- A reader of the format: the title, and the contents behind the extended header. -/
def readCnmt (b : Bytes) : ℕ × List Listed :=
  (field b 0 8, (List.range (field b 16 2)).map fun i =>
    readListed (slice b (32 + field b 14 2 + 56 * i) 56))

lemma packed_append (fields more : List (ℕ × ℕ)) :
    packed (fields ++ more) = packed fields ++ packed more := List.flatMap_append

def cnmtFields (h : CnmtHeader) : List (ℕ × ℕ) :=
  [(8, h.titleId.toNat), (4, h.titleVersion.toNat), (1, h.metaType.toNat), (1, 0),
    (2, h.metaHeader.extendedHeaderSize.toNat), (2, h.metaHeader.contentCount.toNat),
    (2, h.metaHeader.contentMetaCount.toNat), (1, h.metaHeader.attributes.toNat),
    (1, h.metaHeader.storageId.toNat), (1, h.installType.toNat), (1, 0),
    (4, h.requiredSysVersion.toNat), (4, 0)]

lemma cnmtHeader_bytes (h : CnmtHeader) : h.bytes = packed (cnmtFields h) := by
  rw [CnmtHeader.bytes, NcmContentMetaHeader.bytes, ← packed_append, ← packed_append]
  rfl

lemma length_cnmtHeader (h : CnmtHeader) : h.bytes.length = 32 := by
  rw [cnmtHeader_bytes, length_packed]
  rfl

lemma length_extended (h : NcmApplicationMetaExtendedHeader) : h.bytes.length = 16 := by
  rw [NcmApplicationMetaExtendedHeader.bytes, length_packed]
  rfl

lemma length_contentInfo (info : NcmContentInfo) : info.bytes.length = 24 := by
  rw [NcmContentInfo.bytes, List.length_append, info.contentId.2, length_packed]
  rfl

lemma length_packagedContentInfo (p : NcmPackagedContentInfo) : p.bytes.length = 56 := by
  rw [NcmPackagedContentInfo.bytes, List.length_append, p.hash.2, length_contentInfo]

/-- What is to be read of an NCA. -/
def listing (nca : NcaEntry) : Listed where
  hash := nca.hash.1
  contentId := (contentIdOf nca.hash).1
  size := nca.data.length % 2 ^ 40
  type := nca.type.toNat

lemma size_withSize (info : NcmContentInfo) (size : ℕ) :
    (info.withSize size).size = size % 2 ^ 40 := by
  have hlow : (UInt32.ofNat size).toNat = size % 2 ^ 32 := UInt32.toNat_ofNat'
  have hhigh : (UInt8.ofNat (size / 2 ^ 32)).toNat = size / 2 ^ 32 % 2 ^ 8 := UInt8.toNat_ofNat'
  rw [NcmContentInfo.size, NcmContentInfo.withSize, hlow, hhigh]
  omega

/-- A record is read field by field. -/
lemma readListed_bytes (nca : NcaEntry) :
    readListed (packagedContentInfo nca).bytes = listing nca := by
  have hsize := size_withSize
    { contentId := contentIdOf nca.hash, contentType := nca.type } nca.data.length
  generalize hp : packagedContentInfo nca = p
  have hinfo : p.info = NcmContentInfo.withSize
      { contentId := contentIdOf nca.hash, contentType := nca.type } nca.data.length := by
    rw [← hp]
    rfl
  have hhash : p.hash = nca.hash := by rw [← hp]; rfl
  have hfields : slice p.bytes 48 (packed p.info.fields ++ []).length =
      packed p.info.fields ++ [] := by
    rw [List.append_nil, NcmPackagedContentInfo.bytes, NcmContentInfo.bytes, ← List.append_assoc]
    refine slice_suffix ?_ rfl
    rw [List.length_append, p.hash.2, p.info.contentId.2]
  have hbelow (i : ℕ) (hi : i < 5) : i < p.info.fields.length := hi
  have hlow : field p.bytes 48 4 = p.info.sizeLow.toNat :=
    field_packed hfields (hbelow 0 (by decide)) p.info.sizeLow.toNat_lt
  have hhigh : field p.bytes 52 1 = p.info.sizeHigh.toNat :=
    field_packed hfields (hbelow 1 (by decide)) p.info.sizeHigh.toNat_lt
  have htype : field p.bytes 54 1 = p.info.contentType.toNat :=
    field_packed hfields (hbelow 3 (by decide)) p.info.contentType.toNat_lt
  have hid : slice p.bytes 32 16 = p.info.contentId.1 := by
    rw [NcmPackagedContentInfo.bytes, NcmContentInfo.bytes]
    exact slice_middle p.hash.2 p.info.contentId.2
  have hfirst : slice p.bytes 0 32 = p.hash.1 := slice_front p.hash.2
  rw [NcmContentInfo.size, ← hinfo] at hsize
  rw [readListed, hfirst, hid, hlow, hhigh, htype, hsize, hhash, hinfo]
  rfl

/-- The file that the meta NCA holds. -/
def cnmt (tid : UInt64) (storageId : UInt8) (ncas : Fin 2 → NcaEntry) : Bytes :=
  (cnmtHeader tid storageId).bytes ++ ((cnmtExtended tid).bytes ++
    (((List.ofFn ncas).flatMap fun nca => (packagedContentInfo nca).bytes) ++ zeros 0x20))

lemma cnmtBuf_eq (tid : UInt64) (storageId : UInt8) (ncas : Fin 2 → NcaEntry) :
    cnmtBuf tid storageId ncas = filled (cnmt tid storageId ncas) := by
  rw [cnmtBuf, write_empty, write_filled, write_filled, write_filled, cnmt, List.append_assoc,
    List.append_assoc]

lemma length_cnmt (tid : UInt64) (storageId : UInt8) (ncas : Fin 2 → NcaEntry) :
    (cnmt tid storageId ncas).length = 192 := by
  have hrecords : ((List.ofFn ncas).flatMap fun nca => (packagedContentInfo nca).bytes).length =
      56 * 2 := by
    rw [length_flatMap_of_length fun nca _ => length_packagedContentInfo (packagedContentInfo nca),
      List.length_ofFn]
  rw [cnmt, List.length_append, List.length_append, List.length_append, length_cnmtHeader,
    length_extended, hrecords, length_zeros]

/-- What is written of two NCAs is read of them. -/
lemma readCnmt_cnmt (tid : UInt64) (storageId : UInt8) (ncas : Fin 2 → NcaEntry) :
    readCnmt (cnmt tid storageId ncas) = (tid.toNat, (List.ofFn ncas).map listing) := by
  generalize hb : cnmt tid storageId ncas = b
  have hlength : (packed (cnmtFields (cnmtHeader tid storageId))).length = 32 := by
    rw [← cnmtHeader_bytes, length_cnmtHeader]
  have hfields : slice b 0 (packed (cnmtFields (cnmtHeader tid storageId)) ++ []).length =
      packed (cnmtFields (cnmtHeader tid storageId)) ++ [] := by
    rw [List.append_nil, hlength, ← hb, cnmt, cnmtHeader_bytes]
    exact slice_front hlength
  have hbelow (i : ℕ) (hi : i < 13) : i < (cnmtFields (cnmtHeader tid storageId)).length := hi
  have hsixteen : (16 : ℕ) < 256 ^ 2 := by decide
  have htwo : (2 : ℕ) < 256 ^ 2 := by decide
  have htitle : field b 0 8 = tid.toNat := field_packed hfields (hbelow 0 (by decide)) tid.toNat_lt
  have hextended : field b 14 2 = 16 := field_packed hfields (hbelow 4 (by decide)) hsixteen
  have hcount : field b 16 2 = 2 := field_packed hfields (hbelow 5 (by decide)) htwo
  have hrecord (i : ℕ) (hi : i < 2) :
      slice b (32 + 16 + 56 * i) 56 = (packagedContentInfo (ncas ⟨i, hi⟩)).bytes := by
    have hi' : i < (List.ofFn ncas).length := by rwa [List.length_ofFn]
    have hrows := slice_rows hi' fun nca _ => length_packagedContentInfo (packagedContentInfo nca)
    have hfits : 56 * i + 56 ≤
        ((List.ofFn ncas).flatMap fun nca => (packagedContentInfo nca).bytes).length := by
      rw [length_flatMap_of_length fun nca _ =>
        length_packagedContentInfo (packagedContentInfo nca), List.length_ofFn]
      omega
    rw [← hb, cnmt, Nat.add_assoc, slice_append_of_length (length_cnmtHeader _),
      slice_append_of_length (length_extended _), slice_append_left hfits, hrows,
      List.getElem_ofFn]
  rw [readCnmt, htitle, hextended, hcount]
  refine congrArg (Prod.mk _) (List.ext_getElem (by simp) fun i hi _ => ?_)
  rw [List.length_map, List.length_range] at hi
  rw [List.getElem_map, List.getElem_range, hrecord i hi, readListed_bytes, List.getElem_map,
    List.getElem_ofFn]

/-! ## NCAs of one section -/

section
variable {sha256 : Bytes → Hash} {encryptNcaHeader : Bytes → Bytes} {bytes : Bytes}
  {fsHeader : FsHeader} {tid : UInt64} {type : UInt8}

/-- The header and the file after the only section. -/
def oneSection (sha256 : Bytes → Hash) (bytes : Bytes) (fsHeader : FsHeader) :
    Header × BufHelper :=
  (withSection sha256 {} 0 0xC00 (0xC00 + bytes.length) fsHeader,
    filled (({} : Header).bytes ++ bytes))

def finalNca (sha256 : Bytes → Hash) (tid : UInt64) (type : UInt8) (bytes : Bytes)
    (fsHeader : FsHeader) : Header × BufHelper :=
  finalizeNcaHeader (oneSection sha256 bytes fsHeader).1 tid type
    (oneSection sha256 bytes fsHeader).2

/-- An NCA with an encrypted header that records its only section. -/
structure Whole (sha256 : Bytes → Hash) (encryptNcaHeader : Bytes → Bytes) (h : Header)
    (data bytes : Bytes) (fsHeader : FsHeader) : Prop where
  header : slice data 0 0xC00 = encryptNcaHeader h.bytes
  size : h.size.toNat = data.length
  length : data.length = 0xC00 + bytes.length
  placed : Placed sha256 h data 0 0xC00 bytes fsHeader

variable (hencrypt : ∀ b, (encryptNcaHeader b).length = b.length)
include hencrypt

lemma sealNca_whole (hdvd : 0x200 ∣ bytes.length) (hsize : 0xC00 + bytes.length < 2 ^ 32) :
    Whole sha256 encryptNcaHeader (finalNca sha256 tid type bytes fsHeader).1
      (sealNca encryptNcaHeader (finalNca sha256 tid type bytes fsHeader)) bytes fsHeader := by
  generalize hfinal : finalNca sha256 tid type bytes fsHeader = final
  have hheader : (encryptNcaHeader final.1.bytes).length = 0xC00 := by
    rw [hencrypt, length_header]
  have hclear : final.2.buf = final.1.bytes ++ bytes := by
    rw [← hfinal]
    exact overwrite_front (by rw [length_header, length_header])
  have hdata : sealNca encryptNcaHeader final = encryptNcaHeader final.1.bytes ++ bytes := by
    rw [sealNca, hclear]
    exact overwrite_front (by rw [hheader, length_header])
  have hlength : (sealNca encryptNcaHeader final).length = 0xC00 + bytes.length := by
    rw [hdata, List.length_append, hheader]
  have hsized : final.1.size = .ofNat (0xC00 + bytes.length) := by
    rw [← hfinal, ← length_emptyHeader, ← List.length_append]
    rfl
  refine ⟨?_, ?_, hlength, ?_⟩
  · rw [hdata]
    exact slice_front hheader
  · rw [hsized, hlength, toNat_ofNat64 hsize]
  · have hrecorded : Recorded sha256 (oneSection sha256 bytes fsHeader).1 0 0xC00
        (0xC00 + bytes.length) fsHeader := recorded_withSection
    rw [hdata, ← hfinal] at *
    refine ⟨⟨hrecorded.entry, hrecorded.fsHeader_eq, hrecorded.hash_eq⟩, by decide, hdvd, hsize, ?_⟩
    exact slice_suffix hheader rfl

/-- A control NCA below four gigabytes gives back its image, with every hash. -/
theorem control_nca_intact (sha256 : Bytes → Hash) (tid : UInt64) (image : Bytes)
    (hsize : 0xC00 + romfsSectionSize image.length < 2 ^ 32) :
    ∃ entry h d, createControlNca sha256 encryptNcaHeader tid image = some entry ∧
      entry.hash = sha256 entry.data ∧
      Whole sha256 encryptNcaHeader h entry.data (romfsSection sha256 image)
        (romfsFsHeader sha256 image) ∧
      sectionBytes h entry.data 0 = romfsSection sha256 image ∧
      (h.fsHeader 0).hashData = .integrityMetaInfo d ∧
      RomfsData sha256 (sectionBytes h entry.data 0) d image := by
  have hlength := @length_romfsSection sha256 image
  have hwritten : writeNcaRomfs sha256 {} 0 image (filled ({} : Header).bytes) =
      some (oneSection sha256 (romfsSection sha256 image) (romfsFsHeader sha256 image)) := by
    rw [writeNcaRomfs_eq, List.length_append, length_emptyHeader]
    · rfl
    · rw [length_emptyHeader]
      decide
    · rfl
    · exact length_emptyHeader.symm
    · rw [hlength]
      omega
  have hfits : 0xC00 + (romfsSection sha256 image).length < 2 ^ 32 := by
    rw [hlength]
    exact hsize
  have hwhole := @sealNca_whole sha256 encryptNcaHeader (romfsSection sha256 image)
    (romfsFsHeader sha256 image) tid ContentType_Control hencrypt (dvd_padded _) hfits
  have hcreated : createControlNca sha256 encryptNcaHeader tid image =
      some (.of sha256 (sealNca encryptNcaHeader (finalNca sha256 tid ContentType_Control
        (romfsSection sha256 image) (romfsFsHeader sha256 image))) NcmContentType_Control) := by
    rw [createControlNca, write_empty, hwritten]
    rfl
  have hbytes := hwhole.placed.sectionBytes_eq
  have hdata : RomfsData sha256 (romfsSection sha256 image) (romfsMetaInfo sha256 image) image :=
    romfsData_section (by rw [hlength]; omega)
  rw [← hbytes] at hdata
  refine ⟨_, _, romfsMetaInfo sha256 image, hcreated, rfl, hwhole, hbytes, ?_, hdata⟩
  rw [hwhole.placed.fsHeader_eq]
  rfl

/-! ## The meta NCA -/

def cnmtFile (tid : UInt64) (storageId : UInt8) (ncas : Fin 2 → NcaEntry) : FileEntry :=
  ⟨cnmtName tid, cnmt tid storageId ncas⟩

omit hencrypt in
lemma length_cnmtName (tid : UInt64) : (cnmtName tid).length = 33 := by
  have hbefore : (ascii "Application_").length = 12 := by decide
  have hbehind : (ascii ".cnmt").length = 5 := by decide
  rw [cnmtName, List.length_append, List.length_append, hbefore, hbehind, hex16, List.length_map,
    List.length_reverse, List.length_range]

omit hencrypt in
lemma pfs0Size_cnmtFile (tid : UInt64) (storageId : UInt8) (ncas : Fin 2 → NcaEntry) :
    pfs0Size [cnmtFile tid storageId ncas] = 296 := by
  simp only [pfs0Size, cnmtFile, List.map_cons, List.map_nil, length_cnmtName, length_cnmt]
  rfl

omit hencrypt in
lemma length_cnmtSection (tid : UInt64) (storageId : UInt8) (ncas : Fin 2 → NcaEntry) :
    (pfs0Section sha256 0x1000 [cnmtFile tid storageId ncas]).length = 0x400 := by
  rw [length_pfs0Section, pfs0SectionSize, pfs0Size_cnmtFile]
  rfl

omit hencrypt in
lemma writeCnmt_eq (tid : UInt64) (storageId : UInt8) (ncas : Fin 2 → NcaEntry) :
    writeNcaPfs0 sha256 {} 0 [cnmtFile tid storageId ncas] PFS0_META_HASH_BLOCK_SIZE
        (filled ({} : Header).bytes) =
      some (oneSection sha256 (pfs0Section sha256 0x1000 [cnmtFile tid storageId ncas])
        (pfs0FsHeader sha256 0x1000 [cnmtFile tid storageId ncas])) := by
  rw [writeNcaPfs0_eq, List.length_append, length_emptyHeader]
  · rfl
  · rw [length_emptyHeader]
    decide
  · rfl
  · exact length_emptyHeader.symm
  · decide
  · rw [length_buildPfs0_size, pfs0Size_cnmtFile]
    decide

/-- What the records beside the meta NCA say of the three contents. -/
structure Described (sha256 : Bytes → Hash) (tid : UInt64) (storageId : UInt8)
    (ncas : Fin 2 → NcaEntry) (entry : NcaMetaEntry) : Prop where
  hash : entry.ncaEntry.hash = sha256 entry.ncaEntry.data
  key : entry.contentMetaKey = ⟨tid, 0, NcmContentMetaType_Application, NcmContentInstallType_Full⟩
  record : entry.contentStorageRecord = ⟨entry.contentMetaKey, storageId⟩
  count : entry.contentMetaData.header.contentCount = 3
  own : (entry.contentMetaData.infos 0).contentId = contentIdOf entry.ncaEntry.hash
  others (i : Fin 2) : entry.contentMetaData.infos i.succ =
    NcmContentInfo.withSize { contentId := contentIdOf (ncas i).hash, contentType := (ncas i).type }
      (ncas i).data.length
  /-- Not the size of the NCA, which has a header and hashes as well. -/
  ownSize : (entry.contentMetaData.infos 0).size = (cnmt tid storageId ncas).length

omit hencrypt in
lemma createMetaNca_described (tid : UInt64) (storageId : UInt8) (ncas : Fin 2 → NcaEntry) :
    ∃ entry, createMetaNca sha256 encryptNcaHeader tid storageId ncas = some entry ∧
      entry.ncaEntry.data = sealNca encryptNcaHeader (finalNca sha256 tid ContentType_Meta
        (pfs0Section sha256 0x1000 [cnmtFile tid storageId ncas])
        (pfs0FsHeader sha256 0x1000 [cnmtFile tid storageId ncas])) ∧
      Described sha256 tid storageId ncas entry := by
  have hentries : addFileEntry [] ⟨cnmtName tid, zero_notMem_cnmtName tid⟩
      (cnmtBuf tid storageId ncas).buf = [cnmtFile tid storageId ncas] := by
    rw [cnmtBuf_eq]
    rfl
  rw [createMetaNca, hentries]
  dsimp only
  rw [write_empty, writeCnmt_eq]
  refine ⟨_, rfl, rfl, rfl, rfl, rfl, rfl, rfl, ?_, ?_⟩
  · intro i
    fin_cases i <;> rfl
  · rw [cnmtBuf_eq]
    exact (size_withSize _ _).trans (Nat.mod_eq_of_lt (by rw [filled, length_cnmt]; decide))

/-- **The meta NCA lists the other two**: a reader finds one file in it, and in the file the hash,
the id, the size and the type of each. -/
theorem meta_nca_lists_contents (sha256 : Bytes → Hash) (tid : UInt64) (storageId : UInt8)
    (ncas : Fin 2 → NcaEntry) :
    ∃ entry h d, createMetaNca sha256 encryptNcaHeader tid storageId ncas = some entry ∧
      Described sha256 tid storageId ncas entry ∧
      slice entry.ncaEntry.data 0 0xC00 = encryptNcaHeader h.bytes ∧
      h.size.toNat = entry.ncaEntry.data.length ∧
      (h.fsHeader 0).hashData = .hierarchicalSha256Data d ∧
      Pfs0Data sha256 (sectionBytes h entry.ncaEntry.data 0) d [cnmtFile tid storageId ncas] ∧
      readCnmt (cnmtFile tid storageId ncas).data = (tid.toNat, (List.ofFn ncas).map listing) := by
  have hlength := @length_cnmtSection sha256 tid storageId ncas
  have hfits :
      0xC00 + (pfs0Section sha256 0x1000 [cnmtFile tid storageId ncas]).length < 2 ^ 32 := by
    rw [hlength]
    decide
  have hwhole := @sealNca_whole sha256 encryptNcaHeader
    (pfs0Section sha256 0x1000 [cnmtFile tid storageId ncas])
    (pfs0FsHeader sha256 0x1000 [cnmtFile tid storageId ncas]) tid ContentType_Meta hencrypt
    (dvd_padded _) hfits
  have hnames : ∀ e ∈ [cnmtFile tid storageId ncas], 0 ∉ e.name := by
    intro e he
    obtain rfl := List.mem_singleton.mp he
    exact zero_notMem_cnmtName tid
  have hsection : (pfs0Section sha256 (0x1000 : UInt32).toNat
      [cnmtFile tid storageId ncas]).length < 2 ^ 32 := by
    change (pfs0Section sha256 0x1000 [cnmtFile tid storageId ncas]).length < 2 ^ 32
    rw [hlength]
    decide
  obtain ⟨d, hd, hdata⟩ := pfs0Data_section hsection hnames
  obtain ⟨entry, hentry, hncaData, hdescribed⟩ :=
    @createMetaNca_described sha256 encryptNcaHeader tid storageId ncas
  rw [← hncaData] at hwhole
  refine ⟨entry, _, d, hentry, hdescribed, hwhole.header, hwhole.size, ?_, ?_,
    readCnmt_cnmt tid storageId ncas⟩
  · rw [hwhole.placed.fsHeader_eq]
    exact hd
  · rw [hwhole.placed.sectionBytes_eq]
    exact hdata

end

/-- Stands in for a cipher: every byte is changed, and the length is kept. -/
def masked (b : Bytes) : Bytes := b.map (· ^^^ 0x5A)

theorem control_nca_intact_small : ∃ entry,
    createControlNca noSha256 masked 1 [7] = some entry ∧ entry.hash = noSha256 entry.data := by
  obtain ⟨entry, h, d, hcreated, hhash, -⟩ := control_nca_intact
    (fun _ => List.length_map _) noSha256 1 [7] (by decide +kernel)
  exact ⟨entry, hcreated, hhash⟩

/-- Two small contents. -/
def someNcas : Fin 2 → NcaEntry :=
  ![.of noSha256 [1, 2] NcmContentType_Program, .of noSha256 [3] NcmContentType_Control]

theorem meta_nca_lists_some : ∃ entry,
    createMetaNca noSha256 masked 0x0500000000001000 NcmStorageId_SdCard someNcas = some entry ∧
      Described noSha256 0x0500000000001000 NcmStorageId_SdCard someNcas entry := by
  obtain ⟨entry, h, d, hcreated, hdescribed, -⟩ := meta_nca_lists_contents
    (fun _ => List.length_map _) noSha256 0x0500000000001000
    NcmStorageId_SdCard someNcas
  exact ⟨entry, hcreated, hdescribed⟩

end ArtemisSwitch.Forwarder
