import ExoBrowser.Host.Frame
import ExoBrowser.Proto.FrameProperties

/-!
# Published frames

The bytes that the bus carries for a frame, and the clients that read them. The host
does not look at sizes, and `decode` does.
-/

set_option autoImplicit false

namespace ExoBrowser.Host

open Library Proto

/-- The bytes of `FrameBus::encode_item`. -/
def encodeItem (target : Target) (msg : Message) : Checked Error Bytes := encoded (msg.encode target)

/-- The bytes that `lz4_encode_into` appends for an image. -/
def lz4Length (pixels : Bytes) : Nat :=
  match encoded (lz4EncodeInto pixels) with
  | .ok block => block.length
  | .error _ => 0

/-- The image is within the cap, and so is its block behind the 21 bytes of the other fields. -/
structure Frame.Fits (f : Frame) : Prop where
  pixels_le : f.pixels.length ≤ maxMessageBytes
  block_le : 21 + lz4Length f.pixels ≤ maxMessageBytes

theorem lz4Length_of_emits {pixels block : Bytes} (emits : Emits (lz4EncodeInto pixels) block) :
    lz4Length pixels = block.length := by
  rw [lz4Length, encoded_of_emits emits]

theorem lz4Length_le {pixels : Bytes} (small : pixels.length ≤ maxMessageBytes) :
    lz4Length pixels ≤ pixels.length + pixels.length / 255 + 6 := by
  obtain ⟨block, emits, short, _⟩ := lz4EncodeInto_inverse pixels small
  rw [lz4Length_of_emits emits]
  omega

/-- Whatever its pixels are, a frame this far below the cap fits. -/
theorem Frame.fits_of_length {f : Frame}
    (small : f.pixels.length + f.pixels.length / 255 + 27 ≤ maxMessageBytes) : f.Fits := by
  have within : f.pixels.length ≤ maxMessageBytes := by omega
  have block := lz4Length_le within
  exact ⟨within, by omega⟩

section Frames

variable {f : Frame}

theorem Frame.rawFrame_rows (wellFormed : f.WellFormed) :
    f.pixels.length = (UInt32.ofNat f.stride).toNat * (UInt16.ofNat f.height).toNat := by
  rw [f.toNat_stride, wellFormed.toNat_height, wellFormed.pixels_length]

/-- The other fields of a `RawFrame` take 21 bytes. -/
theorem Frame.emits_rawFrame (host : Target) (tsUs : UInt64)
    (small : f.pixels.length ≤ maxMessageBytes) :
    ∃ payload, Emits ((f.rawFrame tsUs).encodePayload host) payload ∧
      payload.length = 21 + lz4Length f.pixels := by
  obtain ⟨block, emits, _, _⟩ := lz4EncodeInto_inverse f.pixels small
  have length : lz4Length f.pixels = block.length := lz4Length_of_emits emits
  refine ⟨toLeBytes 8 tsUs.toNat ++ (toLeBytes 2 (UInt16.ofNat f.width).toNat ++
    (toLeBytes 2 (UInt16.ofNat f.height).toNat ++ (toLeBytes 4 (UInt32.ofNat f.stride).toNat ++
    (toLeBytes 4 f.format.toNat ++ ([Compression.zstd] ++ block))))), ?_, ?_⟩
  · exact (emits_extend _).seq <| (emits_extend _).seq <| (emits_extend _).seq <|
      (emits_extend _).seq <| (emits_extend _).seq <| (emits_extend _).seq emits
  · simp only [List.length_append, length_toLeBytes, List.length_singleton, length]
    omega

theorem Frame.fits_of_decodable {host client : Target} {tsUs : UInt64} {bytes rest : Bytes}
    (encodes : encodeItem host (f.rawFrame tsUs) = .ok bytes)
    (decodes : Message.decode client bytes = (.ok (some (f.rawFrame tsUs)), rest)) : f.Fits := by
  have cap : maxMessageBytes = 16777216 := rfl
  obtain ⟨_, _, _, within⟩ := decode_accepted decodes
  have small : f.pixels.length ≤ maxMessageBytes := by
    rw [if_neg (by decide)] at within
    exact within
  refine ⟨small, ?_⟩
  by_contra large
  obtain ⟨payload, emits, length⟩ := f.emits_rawFrame host tsUs small
  have block := lz4Length_le small
  have announced : payload.length < 2 ^ 32 := by omega
  rw [encodeItem, encoded, emits_encode emits announced []] at encodes
  cases encodes
  rw [List.nil_append, decode_frameBytes_large (by omega) announced] at decodes
  cases decodes

theorem Frame.decodable_of_fits (host client : Target) (tsUs : UInt64) (wellFormed : f.WellFormed)
    (fits : f.Fits) :
    ∃ bytes, encodeItem host (f.rawFrame tsUs) = .ok bytes ∧
      Message.decode client bytes = (.ok (some (f.rawFrame tsUs)), []) := by
  obtain ⟨small, blockLe⟩ := fits
  have valid : (f.rawFrame tsUs).WireValid :=
    ⟨f.rawFrame_rows wellFormed, .inr (.inl ⟨rfl, small⟩)⟩
  obtain ⟨payload, emits, length⟩ := f.emits_rawFrame host tsUs small
  have encodes : encoded ((f.rawFrame tsUs).encodePayload host) = .ok payload :=
    encoded_of_emits emits
  obtain ⟨framed, decodes⟩ := encode_frame host client valid encodes (by omega)
  refine ⟨frameBytes (f.rawFrame tsUs).tag payload, ?_, ?_⟩
  · rw [encodeItem, encoded, framed []]
    rfl
  · have decoded := decodes []
    rwa [List.append_nil] at decoded

/-- A frame that the host publishes is decodable if and only if it fits. -/
theorem rawFrame_decodable_iff (host client : Target) (f : Frame) (tsUs : UInt64)
    (wellFormed : f.WellFormed) :
    (∃ bytes, encodeItem host (f.rawFrame tsUs) = .ok bytes ∧
        Message.decode client bytes = (.ok (some (f.rawFrame tsUs)), [])) ↔ f.Fits := by
  constructor
  · rintro ⟨bytes, encodes, decodes⟩
    exact Frame.fits_of_decodable encodes decodes
  · exact f.decodable_of_fits host client tsUs wellFormed

end Frames

/-- A frame of one colour, without padding. -/
def blankFrame (width height : Nat) (narrow : width ≤ 65535) : Frame where
  tabId := 1
  width
  height
  stride := 4 * width
  format := 0
  pixels := List.replicate (4 * width * height) 0
  stride_lt := by omega

theorem rawFrame_decodable_vga :
    ∃ bytes, encodeItem .bits64 ((blankFrame 640 480 (by decide)).rawFrame 7) = .ok bytes ∧
      Message.decode .bits32 bytes =
        (.ok (some ((blankFrame 640 480 (by decide)).rawFrame 7)), []) := by
  have wellFormed : (blankFrame 640 480 (by decide)).WellFormed :=
    ⟨by decide, by decide, by decide, by decide, Nat.le_refl _, List.length_replicate⟩
  have length : (blankFrame 640 480 (by decide)).pixels.length = 4 * 640 * 480 :=
    List.length_replicate
  refine (rawFrame_decodable_iff .bits64 .bits32 _ 7 wellFormed).mpr (Frame.fits_of_length ?_)
  rw [length]
  decide

/-- A blank window of 3840 by 2160 pixels is compressed well and still refused. -/
theorem rawFrame_refused_uhd :
    (blankFrame 3840 2160 (by decide)).WellFormed ∧
      ¬ ∃ bytes, encodeItem .bits64 ((blankFrame 3840 2160 (by decide)).rawFrame 7) = .ok bytes ∧
        Message.decode .bits64 bytes =
          (.ok (some ((blankFrame 3840 2160 (by decide)).rawFrame 7)), []) := by
  constructor
  · exact ⟨by decide, by decide, by decide, by decide, Nat.le_refl _, List.length_replicate⟩
  · rintro ⟨bytes, encodes, decodes⟩
    have fits := (Frame.fits_of_decodable encodes decodes).pixels_le
    have length : (blankFrame 3840 2160 (by decide)).pixels.length = 4 * 3840 * 2160 :=
      List.length_replicate
    rw [length] at fits
    exact absurd fits (by decide)

end ExoBrowser.Host
