import Issuance.Encoding.Pem
import Issuance.Proofs.Encoding.Base64

namespace Issuance

namespace Text

/-- Bytes below 128 stand for themselves. -/
theorem decodeUtf8_ascii {bytes : List UInt8} (ascii : ∀ byte ∈ bytes, byte.toNat < 128) :
    decodeUtf8 bytes = .ok (bytes.map fun byte => Char.ofNat byte.toNat) := by
  have encoded := utf8Bytes_ascii ascii
  rw [utf8Bytes, String.toList_ofList] at encoded
  exact decodeUtf8_eq_ok_iff.mpr encoded.symm

end Text

namespace Pem

theorem decodePart_ascii {bytes : List UInt8} (ascii : ∀ byte ∈ bytes, byte.toNat < 128) :
    decodePart bytes = .ok (bytes.map fun byte => Char.ofNat byte.toNat) := by
  rw [decodePart, Text.decodeUtf8_ascii ascii]

section Frames

variable {input rest : List UInt8} {frame : Frame}

theorem frames_of_none (missing : nextFrame input = none) : frames input = [] := by
  rw [frames]
  split
  · rfl
  · next found => cases missing.symm.trans found

theorem frames_of_some (found : nextFrame input = some (frame, rest)) :
    frames input = frame :: frames rest := by
  rw [frames]
  split
  · next missing => cases missing.symm.trans found
  · next same =>
    obtain ⟨rfl, rfl⟩ := Prod.mk.inj (Option.some.inj (found.symm.trans same))
    rfl

/-- A text without a frame has no blocks. -/
theorem decodeAll_of_none (missing : nextFrame input = none) : decodeAll input = .ok [] := by
  rw [decodeAll, frames_of_none missing]
  rfl

end Frames

theorem Block.encode_ne_nil (block : Block) : block.encode ≠ [] := by
  simp [encode, beginMark]

end Pem

end Issuance
