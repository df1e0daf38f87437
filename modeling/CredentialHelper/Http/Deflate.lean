import CredentialHelper.Text.Decoding

/-!
# Deflated data

Data is a sequence of blocks of bits. A block holds bytes as they are, or words of two prefix codes:
one for bytes and for lengths of passages to be repeated, and one for how far back those begin. The
codes are fixed, or stand in front of the words as the lengths of their words.

`Inflater` reads such data. If the bits run out, what was decoded up to there stays.
-/

namespace CredentialHelper

inductive CodingError where
  | header
  | method
  | flags
  | headerChecksum
  | blockType
  | storedLength
  | symbolCount
  | lengthCode
  | repetition
  | noEnd
  | literalCode
  | distanceCode
  | literal
  | distance
  | tooFar
  | checksum
  | length
  deriving DecidableEq, Repr

def CodingError.reason : CodingError → String
  | .header => "incorrect header check"
  | .method => "unknown compression method"
  | .flags => "unknown header flags set"
  | .headerChecksum => "header crc mismatch"
  | .blockType => "invalid block type"
  | .storedLength => "invalid stored block lengths"
  | .symbolCount => "too many length or distance symbols"
  | .lengthCode => "invalid code lengths set"
  | .repetition => "invalid bit length repeat"
  | .noEnd => "invalid code -- missing end-of-block"
  | .literalCode => "invalid literal/lengths set"
  | .distanceCode => "invalid distances set"
  | .literal => "invalid literal/length code"
  | .distance => "invalid distance code"
  | .tooFar => "invalid distance too far back"
  | .checksum => "incorrect data check"
  | .length => "incorrect length check"

def CodingError.message (e : CodingError) : String :=
  "Error -3 while decompressing data: " ++ e.reason

/-- The bits that are left to read, and what was decoded. -/
structure Inflation where
  bits : List Bool
  output : Array UInt8

inductive Halt where
  | exhausted
  | refused (e : CodingError)
  deriving DecidableEq, Repr

abbrev Inflater (α : Type) : Type := ExceptT Halt (StateM Inflation) α

namespace Inflater

/-! ## Bits -/

def bitsOf (b : UInt8) : List Bool := (List.range 8).map b.toNat.testBit

def refuse {α : Type} (e : CodingError) : Inflater α := throw (.refused e)

def bit : Inflater Bool := do
  match (← get).bits with
  | [] => throw .exhausted
  | b :: bits =>
    modify fun s => { s with bits }
    return b

def number : Nat → Inflater Nat
  | 0 => return 0
  | n + 1 => do
    let low ← bit
    return low.toNat + 2 * (← number n)

def skip (n : Nat) : Inflater Unit := do
  if (← get).bits.length < n then throw .exhausted
  modify fun s => { s with bits := s.bits.drop n }

def align : Inflater Unit := modify fun s => { s with bits := s.bits.drop (s.bits.length % 8) }

def repeated {α : Type} (operation : Inflater α) : Nat → Inflater (List α)
  | 0 => return []
  | n + 1 => return (← operation) :: (← repeated operation n)

def emit (b : UInt8) : Inflater Unit := modify fun s => { s with output := s.output.push b }

/-! ## Prefix codes -/

/-- The symbols of a prefix code by the lengths of their words, from the length one on. The words of
one length follow each other, and longer words follow shorter ones. -/
abbrev PrefixCode : Type := List (List Nat)

/-- The code whose symbols have words of the given lengths; a symbol of length zero has no word. -/
def codeOf (lengths : List Nat) : PrefixCode :=
  (List.range (max 1 (lengths.foldl max 0))).map fun n =>
    lengths.zipIdx.filterMap fun (length, symbol) => if length = n + 1 then some symbol else none

/-- How much of all words a code uses, if 32768 is everything. -/
def weight (lengths : List Nat) : Nat :=
  lengths.foldl (fun used length => if length = 0 then used else used + 32768 >>> length) 0

/-- Whether lengths make up a code: every word has a meaning, or there is at most one word and it
has one bit. -/
def areUsable (lengths : List Nat) : Bool :=
  weight lengths == 32768 || (weight lengths < 32768 && lengths.all (· ≤ 1))

/-- Reads a word; `offset` is its distance from the first word of its length. -/
def wordFrom (e : CodingError) : PrefixCode → Nat → Inflater Nat
  | [], _ => refuse e
  | symbols :: longer, offset => do
    let offset := 2 * offset + (← bit).toNat
    match symbols[offset]? with
    | some symbol => return symbol
    | none => wordFrom e longer (offset - symbols.length)

def word (e : CodingError) (code : PrefixCode) : Inflater Nat := wordFrom e code 0

/-! ## Passages -/

/-- The shortest length that a symbol stands for, and how many bits tell more. -/
def lengthBases : List (Nat × Nat) :=
  [(3, 0), (4, 0), (5, 0), (6, 0), (7, 0), (8, 0), (9, 0), (10, 0), (11, 1), (13, 1), (15, 1),
    (17, 1), (19, 2), (23, 2), (27, 2), (31, 2), (35, 3), (43, 3), (51, 3), (59, 3), (67, 4),
    (83, 4), (99, 4), (115, 4), (131, 5), (163, 5), (195, 5), (227, 5), (258, 0)]

/-- The shortest distance that a symbol stands for, and how many bits tell more. -/
def distanceBases : List (Nat × Nat) :=
  [(1, 0), (2, 0), (3, 0), (4, 0), (5, 1), (7, 1), (9, 2), (13, 2), (17, 3), (25, 3), (33, 4),
    (49, 4), (65, 5), (97, 5), (129, 6), (193, 6), (257, 7), (385, 7), (513, 8), (769, 8),
    (1025, 9), (1537, 9), (2049, 10), (3073, 10), (4097, 11), (6145, 11), (8193, 12), (12289, 12),
    (16385, 13), (24577, 13)]

def extended (e : CodingError) (bases : List (Nat × Nat)) (symbol : Nat) : Inflater Nat :=
  match bases[symbol]? with
  | none => refuse e
  | some (base, extra) => return base + (← number extra)

/-- Appends so many bytes, each as it stands a distance before its place. -/
def copied (distance : Nat) : Nat → Array UInt8 → Array UInt8
  | 0, output => output
  | n + 1, output => copied distance n (output.push (output[output.size - distance]?.getD 0))

def passage (distances : PrefixCode) (length : Nat) : Inflater Unit := do
  let distance ← extended .distance distanceBases (← word .distance distances)
  if (← get).output.size < distance then refuse .tooFar
  modify fun s => { s with output := copied distance length s.output }

def words (literals distances : PrefixCode) : Nat → Inflater Unit
  | 0 => throw .exhausted
  | n + 1 => do
    let symbol ← word .literal literals
    if symbol < 256 then
      emit (UInt8.ofNat symbol)
      words literals distances n
    else if symbol = 256 then return ()
    else
      passage distances (← extended .literal lengthBases (symbol - 257))
      words literals distances n

/-! ## Blocks -/

/-- Bytes as they are. Their count is given twice, once with all bits inverted. -/
def stored : Inflater Unit := do
  align
  let length ← number 16
  if length + (← number 16) ≠ 65535 then refuse .storedLength
  bytes length
where
  bytes : Nat → Inflater Unit
    | 0 => return ()
    | n + 1 => do
      emit (UInt8.ofNat (← number 8))
      bytes n

def fixedLiterals : List Nat :=
  List.replicate 144 8 ++ List.replicate 112 9 ++ List.replicate 24 7 ++ List.replicate 8 8

def fixedDistances : List Nat := List.replicate 32 5

/-- The symbols of the code for lengths, in the order in which their own lengths are given. -/
def lengthOrder : List Nat := [16, 17, 18, 0, 8, 7, 9, 6, 10, 5, 11, 4, 12, 3, 13, 2, 14, 1, 15]

/-- The code for lengths. If it has no words, every bit stands for the length zero. -/
def lengthCode (given : List Nat) : Inflater PrefixCode := do
  let lengths := (List.range 19).map fun symbol => ((lengthOrder.zip given).lookup symbol).getD 0
  if lengths.all (· = 0) then return [[0, 0]]
  if weight lengths ≠ 32768 then refuse .lengthCode
  return codeOf lengths

/-- Reads so many lengths; `read` holds those that were read, the last one first. A symbol above 15
repeats the length before it or zero. -/
def codeLengths (code : PrefixCode) (count : Nat) : Nat → List Nat → Inflater (List Nat)
  | 0, read => return read.reverse
  | n + 1, read => do
    if count ≤ read.length then return read.reverse
    let (length, times) ← match ← word .lengthCode code with
      | 16 => do
        let more ← number 2
        match read with
        | [] => refuse .repetition
        | last :: _ => pure (last, 3 + more)
      | 17 => pure (0, 3 + (← number 3))
      | 18 => pure (0, 11 + (← number 7))
      | length => pure (length, 1)
    if count < read.length + times then refuse .repetition
    codeLengths code count n (List.replicate times length ++ read)

def codes : Inflater (PrefixCode × PrefixCode) := do
  let literals := 257 + (← number 5)
  let distances := 1 + (← number 5)
  let given := 4 + (← number 4)
  if 286 < literals ∨ 30 < distances then refuse .symbolCount
  let code ← lengthCode (← repeated (number 3) given)
  let lengths ← codeLengths code (literals + distances) (literals + distances) []
  let (forLiterals, forDistances) := lengths.splitAt literals
  if forLiterals[256]? = some 0 then refuse .noEnd
  if !areUsable forLiterals then refuse .literalCode
  if !areUsable forDistances then refuse .distanceCode
  return (codeOf forLiterals, codeOf forDistances)

def block : Inflater Bool := do
  let isLast ← bit
  let kind ← number 2
  let bound := (← get).bits.length + 1
  match kind with
  | 0 => stored
  | 1 => words (codeOf fixedLiterals) (codeOf fixedDistances) bound
  | 2 =>
    let (literals, distances) ← codes
    words literals distances bound
  | _ => refuse .blockType
  return isLast

def blocks : Nat → Inflater Unit
  | 0 => throw .exhausted
  | n + 1 => do
    if ← block then align else blocks n

/-- Reads deflated data up to the byte in which it ends. -/
def inflate : Inflater Unit := do
  blocks ((← get).bits.length + 1)

/-- What an operation decodes. Data may end early. -/
def decode (operation : Inflater Unit) (bytes : Bytes) : Except CodingError Bytes :=
  match Id.run (StateT.run (ExceptT.run operation) ⟨bytes.flatMap bitsOf, #[]⟩) with
  | (.error (.refused e), _) => .error e
  | (_, s) => .ok s.output.toList

end Inflater

end CredentialHelper
