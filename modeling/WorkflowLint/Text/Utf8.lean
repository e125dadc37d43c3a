import WorkflowLint.Text.Quoted

/-!
Contract: text read from UTF-8 bytes.

Owns: the reader and its refusals.  A refusal names where the first bytes that form no character
start, how many bytes of them were still acceptable, and why the sequence stops there.
-/

set_option autoImplicit false

namespace WorkflowLint.Text.Utf8

inductive Reason where
  | invalidStart
  | invalidContinuation
  | unexpectedEnd
  deriving DecidableEq

structure Fault where
  first : UInt8
  start : Nat
  count : Nat
  reason : Reason
  deriving DecidableEq

def Reason.message : Reason → String
  | .invalidStart => "invalid start byte"
  | .invalidContinuation => "invalid continuation byte"
  | .unexpectedEnd => "unexpected end of data"

/-- The wording of a fault; it names the byte when there is one only. -/
def Fault.message (fault : Fault) : String :=
  let place :=
    if fault.count == 1 then
      "byte 0x" ++ String.ofList (hex 2 fault.first.toNat) ++ " in position " ++
        toString fault.start
    else
      "bytes in position " ++ toString fault.start ++ "-" ++
        toString (fault.start + fault.count - 1)
  "'utf-8' codec can't decode " ++ place ++ ": " ++ fault.reason.message

def width? (first : UInt8) : Option Nat :=
  if first < 0x80 then some 1
  else if first < 0xC2 then none
  else if first < 0xE0 then some 2
  else if first < 0xF0 then some 3
  else if first < 0xF5 then some 4
  else none

def isContinuation (byte : UInt8) : Bool :=
  0x80 ≤ byte && byte < 0xC0

/-- A second byte that gives no overlong form, no surrogate and no code past the last. -/
def secondFits (first second : UInt8) : Bool :=
  isContinuation second &&
    (first != 0xE0 || 0xA0 ≤ second) && (first != 0xED || second < 0xA0) &&
    (first != 0xF0 || 0x90 ≤ second) && (first != 0xF4 || second < 0x90)

/-- Number of bytes that go on with a character that starts with `first`. -/
def goodCount (first : UInt8) : List UInt8 → Nat
  | [] => 0
  | second :: rest =>
      if secondFits first second then 1 + (rest.takeWhile isContinuation).length else 0

def codeOf (width : Nat) (first : UInt8) (tail : List UInt8) : Nat :=
  let lead := match width with
    | 1 => first.toNat
    | 2 => first.toNat % 32
    | 3 => first.toNat % 16
    | _ => first.toNat % 8
  tail.foldl (fun code byte => code * 64 + byte.toNat % 64) lead

def decodeFrom (position : Nat) (bytes : List UInt8) : Except Fault (List Char) :=
  match bytes with
  | [] => .ok []
  | first :: rest =>
      match width? first with
      | none => .error ⟨first, position, 1, .invalidStart⟩
      | some width =>
          let tail := rest.take (width - 1)
          let good := goodCount first tail
          if good == width - 1 then
            match decodeFrom (position + width) (rest.drop (width - 1)) with
            | .ok chars => .ok (Char.ofNat (codeOf width first tail) :: chars)
            | .error fault => .error fault
          else if good == tail.length then .error ⟨first, position, 1 + good, .unexpectedEnd⟩
          else .error ⟨first, position, 1 + good, .invalidContinuation⟩
termination_by bytes.length
decreasing_by
  simp only [List.length_cons, List.length_drop]
  omega

def decode (bytes : List UInt8) : Except Fault (List Char) :=
  decodeFrom 0 bytes

def encode (text : List Char) : List UInt8 :=
  (String.ofList text).toUTF8.toList

end WorkflowLint.Text.Utf8
