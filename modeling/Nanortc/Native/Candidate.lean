import Nanortc.Native.Addr
import Nanortc.Native.Ice

/-!
# Candidate texts

The candidate attribute and the short form "address port" after `nano_rtc_negotiate.c`.
-/

namespace Nanortc.Native

open Nanortc.ForStd

/-- `strlen` at the boundary of the API: the bytes before the terminator. -/
def cText (s : List UInt8) : List UInt8 := s.takeWhile (· ≠ 0)

/-- `candidate_is_space`. -/
def candidateIsSpace (c : UInt8) : Bool := c == 0x20 || c == 0x09 || c == 0x0D || c == 0x0A

/-- `candidate_next_token`: the token and what follows it. -/
def candidateNextToken (s : List UInt8) : Option (List UInt8 × List UInt8) :=
  match s.dropWhile candidateIsSpace with
  | [] => none
  | c :: s => some ((c :: s).span fun c => !candidateIsSpace c)

/-- A letter in lower case. -/
def lowerCase (c : UInt8) : UInt8 := if 0x41 ≤ c ∧ c ≤ 0x5A then c + 0x20 else c

/-- `candidate_token_eq_ci`. -/
def candidateTokenEqCi (token literal : List UInt8) : Bool :=
  token.map lowerCase == literal.map lowerCase

/-- The digits of a number in 32 bits. -/
def checkedU32 (digits : List UInt8) : Option Nat :=
  digits.foldlM
    (fun val c =>
      let val' := val * 10 + (c.toNat - 0x30)
      if isDigit c ∧ val' ≤ 0xFFFFFFFF then some val' else none)
    0

/-- `candidate_token_u32`. -/
def candidateTokenU32 (token : List UInt8) : Option Nat :=
  if token = [] then none else checkedU32 token

/-- The port of a token. -/
def candidatePort (token : List UInt8) : Option UInt16 :=
  match candidateTokenU32 token with
  | none => none
  | some port => if port = 0 ∨ port > 0xFFFF then none else some (UInt16.ofNat port)

/-- The type after the first "typ"; a token follows it. -/
def candidateType : (fuel : Nat) → List UInt8 → Except Rc IceCandType
  | 0, _ => .ok .host
  | fuel + 1, s =>
    match candidateNextToken s with
    | none => .ok .host
    | some (key, s) =>
      if !candidateTokenEqCi key (ascii "typ") then candidateType fuel s
      else
        match candidateNextToken s with
        | none => .error .parse
        | some (value, _) =>
          if candidateTokenEqCi value (ascii "srflx") || candidateTokenEqCi value (ascii "prflx") then
            .ok .srflx
          else if candidateTokenEqCi value (ascii "relay") then .ok .relay
          else .ok .host

/-- Address, port and type of a candidate attribute after its prefix. -/
def candidateAttribute (s : List UInt8) : Except Rc (List UInt8 × UInt16 × IceCandType) :=
  let fields := do
    let (_, s) ← candidateNextToken s
    let (component, s) ← candidateNextToken s
    let (transport, s) ← candidateNextToken s
    let (_, s) ← candidateNextToken s
    let (address, s) ← candidateNextToken s
    let (port, s) ← candidateNextToken s
    let component ← candidateTokenU32 component
    let port ← candidatePort port
    some (component, transport, address, port, s)
  match fields with
  | none => .error .parse
  | some (component, transport, address, port, s) =>
    if component ≠ 1 ∨ !candidateTokenEqCi transport (ascii "udp") then .error .notImplemented
    else (candidateType s.length s).map fun type => (address, port, type)

/-- Address and port of the short form. -/
def candidateShort (s : List UInt8) : Except Rc (List UInt8 × UInt16 × IceCandType) :=
  let fields := do
    let (address, s) ← candidateNextToken s
    let (port, _) ← candidateNextToken s
    some (address, ← candidatePort port)
  match fields with
  | none => .error .parse
  | some (address, port) => .ok (address, port, .host)

/-- The parser of `nanortc_add_remote_candidate`. -/
def candidateParse (s : List UInt8) : Except Rc IceCandidate := do
  let (address, port, type) ←
    if (ascii "candidate:").isPrefixOf s then candidateAttribute (s.drop 10) else candidateShort s
  if address.length ≥ ipv6StrSize then throw .parse
  let (family, addr) ← addrParseAuto address
  return ⟨addr, port, family, type⟩

end Nanortc.Native
