import Nanortc.ForStd.BigEndian
import Nanortc.ForStd.Text
import Nanortc.Native.Types

/-!
# Base64

The encoder of `nano_base64.c`.
-/

namespace Nanortc.Native

open Nanortc.ForStd

/-- `kBase64Alphabet`. -/
def kBase64Alphabet : List UInt8 :=
  ascii "ABCDEFGHIJKLMNOPQRSTUVWXYZabcdefghijklmnopqrstuvwxyz0123456789+/"

/-- The character for the six bits of a triple from the given place on. -/
def kBase64Char (triple shift : UInt32) : UInt8 :=
  kBase64Alphabet.getD (triple >>> shift &&& 0x3F).toNat 0

/-- The two loops of `nano_base64_encode`: full groups, then the tail. -/
def nanoBase64Groups : (src dst : List UInt8) → List UInt8
  | [], dst => dst
  | [a], dst =>
    let triple := a.toUInt32 <<< 16
    dst ++ [kBase64Char triple 18, kBase64Char triple 12, 0x3D, 0x3D]
  | [a, b], dst =>
    let triple := a.toUInt32 <<< 16 ||| b.toUInt32 <<< 8
    dst ++ [kBase64Char triple 18, kBase64Char triple 12, kBase64Char triple 6, 0x3D]
  | a :: b :: c :: src, dst =>
    let triple := a.toUInt32 <<< 16 ||| b.toUInt32 <<< 8 ||| c.toUInt32
    nanoBase64Groups src (dst ++ [kBase64Char triple 18, kBase64Char triple 12,
      kBase64Char triple 6, kBase64Char triple 0])

/-- `nano_base64_encode`: the buffer with the text and its terminator, and the length of the text. -/
def nanoBase64Encode (src dst : List UInt8) : Except Rc (List UInt8 × Nat) :=
  let needed := (src.length + 2) / 3 * 4 + 1
  if dst.length < needed then .error .bufferTooSmall
  else
    let text := nanoBase64Groups src []
    .ok (writeAt dst 0 (text ++ [0]), text.length)

end Nanortc.Native
