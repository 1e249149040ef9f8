/-!
# UTF-8

Characters as bytes and back. Reading bytes names the place and the kind of the first fault: a
sequence that no character has, or one that the end of the bytes cuts short.
-/

namespace CloudScope.Utf8

inductive Fault where
  /-- At `index` stands a sequence that no continuation could mend; `length` bytes of it are
  the longest start of a character. -/
  | invalid (length index : Nat)
  /-- The bytes end inside the character that starts at `index`. -/
  | incomplete (index : Nat)
deriving DecidableEq, Repr

def Fault.message : Fault → String
  | .invalid length index =>
    "invalid utf-8 sequence of " ++ toString length ++ " bytes from index " ++ toString index
  | .incomplete index => "incomplete utf-8 byte sequence from index " ++ toString index

def encodeChar (c : Char) : List UInt8 :=
  let n := c.toNat
  if n < 0x80 then [.ofNat n]
  else if n < 0x800 then [.ofNat (0xC0 + n / 64), .ofNat (0x80 + n % 64)]
  else if n < 0x10000 then
    [.ofNat (0xE0 + n / 4096), .ofNat (0x80 + n / 64 % 64), .ofNat (0x80 + n % 64)]
  else
    [.ofNat (0xF0 + n / 262144), .ofNat (0x80 + n / 4096 % 64), .ofNat (0x80 + n / 64 % 64),
     .ofNat (0x80 + n % 64)]

def encode (s : List Char) : List UInt8 :=
  s.flatMap encodeChar

/-- The number of bytes of a text. -/
def size : List Char → Nat
  | [] => 0
  | c :: s => c.utf8Size + size s

/-- The length of the sequences that a byte of at least 0x80 opens, with the least and the
greatest second byte: surrogates, code points past the last and overlong forms are left out here. -/
def opening? (a : Nat) : Option (Nat × Nat × Nat) :=
  if 0xC2 ≤ a ∧ a ≤ 0xDF then some (2, 0x80, 0xBF)
  else if a = 0xE0 then some (3, 0xA0, 0xBF)
  else if a = 0xED then some (3, 0x80, 0x9F)
  else if 0xE1 ≤ a ∧ a ≤ 0xEF then some (3, 0x80, 0xBF)
  else if a = 0xF0 then some (4, 0x90, 0xBF)
  else if 0xF1 ≤ a ∧ a ≤ 0xF3 then some (4, 0x80, 0xBF)
  else if a = 0xF4 then some (4, 0x80, 0x8F)
  else none

def isContinuation (b : Nat) : Bool :=
  0x80 ≤ b && b ≤ 0xBF

/-- Reads the bytes that follow the first `index` ones. -/
def decodeFrom (index : Nat) : List UInt8 → Except Fault (List Char)
  | [] => .ok []
  | a :: rest =>
    let a := a.toNat
    if a < 0x80 then (decodeFrom (index + 1) rest).map (Char.ofNat a :: ·)
    else
      match opening? a with
      | none => .error (.invalid 1 index)
      | some (length, low, high) =>
        match rest with
        | [] => .error (.incomplete index)
        | b :: rest =>
          let b := b.toNat
          if b < low || high < b then .error (.invalid 1 index)
          else if length = 2 then
            (decodeFrom (index + 2) rest).map (Char.ofNat (a % 32 * 64 + b % 64) :: ·)
          else
            match rest with
            | [] => .error (.incomplete index)
            | c :: rest =>
              let c := c.toNat
              if !isContinuation c then .error (.invalid 2 index)
              else if length = 3 then
                (decodeFrom (index + 3) rest).map
                  (Char.ofNat (a % 16 * 4096 + b % 64 * 64 + c % 64) :: ·)
              else
                match rest with
                | [] => .error (.incomplete index)
                | d :: rest =>
                  let d := d.toNat
                  if !isContinuation d then .error (.invalid 3 index)
                  else
                    (decodeFrom (index + 4) rest).map
                      (Char.ofNat (a % 8 * 262144 + b % 64 * 4096 + c % 64 * 64 + d % 64) :: ·)

def decode (bytes : List UInt8) : Except Fault (List Char) :=
  decodeFrom 0 bytes

end CloudScope.Utf8
