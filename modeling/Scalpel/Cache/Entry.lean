import Scalpel.Bincode

/-!
# Image keys and cache entries

The data model of `cache/mod.rs`.  An `ImageKey` names an image by its chapter hash, its file
name and whether it is the data-saver variant, and renders as the path
`/{data|data-saver}/{chapter}/{image}`.  An `ImageEntry` is what a cache hands back for a key:
the last-modified time in milliseconds, the MD5 checksum of the image, its MIME type and its
bytes.

An entry travels as bytes through `TryInto<Bytes>` and `TryFrom<Bytes>`, which are
`bincode::serialize` and `bincode::deserialize` of the derived layout: the four fields in
order.  `ImageEntry.format` is that layout as a `Format`, so both directions of the round trip
come from the laws of the field formats: `tryFrom_tryInto` (every entry comes back field for
field) and `tryInto_prefix_of_tryFrom` (the decoder accepts only inputs that begin with the
exact encoding of the entry it returns).  The same laws make the layout prefix-free: an entry's
encoding cut short anywhere is refused (`tryFrom_truncated`).
-/

namespace Scalpel

/-! ## Image keys -/

/-- `ImageKey`: the chapter hash, the image file name and whether it is the data-saver variant. -/
structure ImageKey where
  chapter : String
  image : String
  dataSaver : Bool
deriving DecidableEq

/-- `ImageKey::archive_name`. -/
def ImageKey.archiveName (k : ImageKey) : String :=
  if k.dataSaver then "data-saver" else "data"

/-- `impl Display for ImageKey`: `/{archive_name}/{chapter}/{image}`. -/
def ImageKey.display (k : ImageKey) : String :=
  "/" ++ k.archiveName ++ "/" ++ k.chapter ++ "/" ++ k.image

/-! ## Entries -/

/-- `cache::ImageEntry`. -/
structure ImageEntry where
  /-- Milliseconds since the epoch. -/
  lastModified : BitVec 128
  checksum : Md5Bytes
  mimeType : RustString
  bytes : Bytes
deriving DecidableEq

section Md5

variable (md5 : List UInt8 → Md5Bytes)

/-- `ImageEntry::new`, with `md5` the digest `md5::compute` computes: a time before the epoch
becomes `0` (`unwrap_or_default`). -/
def ImageEntry.new (bytes : Bytes) (mimeType : RustString) (lastModified : SystemTime) :
    ImageEntry where
  lastModified := BitVec.ofNat 128
    (((lastModified.durationSince unixEpoch).map Duration.asMillis).getD 0)
  checksum := md5 bytes.toList
  mimeType := mimeType
  bytes := bytes

end Md5

/-- An entry as the tuple of its fields, in declaration order. -/
def ImageEntry.fields : ((BitVec 128 × Md5Bytes) × RustString) × Bytes ≃ ImageEntry where
  toFun p := ⟨p.1.1.1, p.1.1.2, p.1.2, p.2⟩
  invFun e := (((e.lastModified, e.checksum), e.mimeType), e.bytes)
  left_inv _ := rfl
  right_inv _ := rfl

/-- The derived bincode layout of an entry: `last_modified`, `checksum`, `mime_type`, `bytes`. -/
def ImageEntry.format : Format ImageEntry :=
  (((Format.u128.seq Format.array16).seq Format.string).seq Format.vec).map ImageEntry.fields

/-- `TryInto<Bytes> for ImageEntry`: `bincode::serialize`. -/
def ImageEntry.tryInto (e : ImageEntry) : Except BincodeError (List UInt8) :=
  serialize ImageEntry.format e

/-- `TryFrom<Bytes> for ImageEntry`: `bincode::deserialize`. -/
def ImageEntry.tryFrom (bytes : List UInt8) : Except BincodeError ImageEntry :=
  deserialize ImageEntry.format bytes

/-- Every entry serializes, and deserializes back to itself, field for field. -/
theorem tryFrom_tryInto (e : ImageEntry) :
    ∃ b, e.tryInto = .ok b ∧ ImageEntry.tryFrom b = .ok e :=
  ⟨_, rfl, deserialize_encode _ e⟩

/-- The decoder accepts only byte strings that begin with the exact encoding of the entry it
returns, which is what `TryInto<Bytes>` gives for that entry. -/
theorem tryInto_prefix_of_tryFrom {b : List UInt8} {e : ImageEntry}
    (h : ImageEntry.tryFrom b = .ok e) :
    e.tryInto = .ok (ImageEntry.format.encode e) ∧ ImageEntry.format.encode e <+: b :=
  ⟨rfl, encode_prefix_of_deserialize h⟩

/-- The string `"image/png"`. -/
def imagePng : RustString := ⟨⟨[105, 109, 97, 103, 101, 47, 112, 110, 103], by decide⟩, by decide⟩

/-- A PNG entry of one byte, last modified at the epoch, with an all-zero checksum. -/
def pngEntry : ImageEntry := ⟨0, ⟨List.replicate 16 0, rfl⟩, imagePng, ⟨[7], by decide⟩⟩

/-- The encoding of `pngEntry` followed by a trailing byte decodes to `pngEntry`, and its
encoding is a prefix of the input. -/
theorem tryInto_prefix_of_tryFrom_pngEntry :
    ImageEntry.tryFrom (ImageEntry.format.encode pngEntry ++ [9]) = .ok pngEntry ∧
      pngEntry.tryInto = .ok (ImageEntry.format.encode pngEntry) ∧
        ImageEntry.format.encode pngEntry <+: ImageEntry.format.encode pngEntry ++ [9] :=
  have h : ImageEntry.tryFrom (ImageEntry.format.encode pngEntry ++ [9]) = .ok pngEntry := rfl
  ⟨h, tryInto_prefix_of_tryFrom h⟩

/-- An entry's bytes cut short anywhere are refused: `TryFrom<Bytes>` accepts no strict prefix
of the encoding of any entry, whatever the prefix decodes its fields to. -/
theorem tryFrom_truncated (e : ImageEntry) {p s : List UInt8}
    (hp : p ++ s = ImageEntry.format.encode e) (hs : s ≠ []) :
    ∃ err, ImageEntry.tryFrom p = .error err := by
  cases h : ImageEntry.tryFrom p with
  | error err => exact ⟨err, rfl⟩
  | ok y => exact absurd h (deserialize_ne_ok_of_append _ hp hs y)

/-- `pngEntry` without its last byte is refused. -/
theorem tryFrom_truncated_pngEntry :
    ∃ err, ImageEntry.tryFrom (ImageEntry.format.encode pngEntry).dropLast = .error err :=
  tryFrom_truncated pngEntry
    (rfl : (ImageEntry.format.encode pngEntry).dropLast ++ [7] = ImageEntry.format.encode pngEntry)
    (List.cons_ne_nil _ _)

/-- A `mime_type` whose byte is not UTF-8 is refused. -/
example : ImageEntry.tryFrom (List.replicate 32 0 ++ leBytes 8 1 ++ [0xFF] ++ leBytes 8 0) =
    .error .invalidUtf8Encoding := by
  rfl

end Scalpel
