import LspSession.Host.Shell.Arithmetic
import LspSession.Host.Utility.Basic

/-!
# `LspSession.Host.Utility.Digest`: digests of what is read

A digest is a short number that stands for a long text. Here are the redundancy check with 32 bits,
the rotating sum with 16 bits, and three kinds of digests that work through blocks of words: each
starts from certain words, mixes every block into them and is what they are at the end.
-/

set_option autoImplicit false

namespace LspSession.Utility

open Shell Shell.Activity

namespace Digest

/-! ### Words and blocks -/

/-- A number without the bits that a word of so many bits has no room for. -/
def fit (width n : Nat) : Nat := n % Nat.pow 2 width

/-- A word with its bits turned to the right. -/
def turn (width by_ n : Nat) : Nat := (n >>> by_) ||| fit width (n <<< (width - by_))

/-- The word with all other bits. -/
def invert (width n : Nat) : Nat := Nat.pow 2 width - 1 - n

/-- The number that octets stand for, the highest first. -/
def ofOctets (octets : List Nat) : Nat := octets.foldl (fun n o => n * 256 + o) 0

/-- So many octets of a number, the highest first. -/
def octets (count n : Nat) : List Nat :=
  (List.range count).map fun i => n / Nat.pow 256 (count - 1 - i) % 256

/-- Parts of a list with a certain length, in at most so many steps. -/
def parts {α : Type} (size : Nat) : Nat → List α → List (List α)
  | 0, _ => []
  | steps + 1, all => if all.isEmpty then [] else all.take size :: parts size steps (all.drop size)

/-- A text as blocks of sixteen words. Behind the text stand a bit, zeros and how many bits it
has. -/
def blocks (width : Nat) (highFirst : Bool) (text : Text) : List (Array Nat) :=
  let size := width / 8
  let order (all : List Nat) : List Nat := if highFirst then all else all.reverse
  let room := 2 * size
  let gap := (16 * size - (text.length + 1 + room) % (16 * size)) % (16 * size)
  let all := text.map Char.toNat ++ 128 :: List.replicate gap 0 ++
    order (octets room (8 * text.length))
  (parts (16 * size) (all.length + 1) all).map fun block =>
    ((parts size 17 block).map fun w => ofOctets (order w)).toArray

/-- The greatest number whose power is not greater than a number. -/
def root (power n : Nat) : Nat :=
  (List.range 80).foldr (fun bit found =>
    let more := found + Nat.pow 2 bit
    if Nat.pow more power ≤ n then more else found) 0

/-- The first prime numbers. -/
def primes : List Nat :=
  ((List.range 410).drop 2).filter fun n =>
    ((List.range n).drop 2).all fun d => n % d != 0

/-- The bits behind the point of a root of a number. -/
def behindPoint (width power n : Nat) : Nat :=
  fit width (root power (n * Nat.pow 2 (width * power)))

/-! ### The kinds of digests -/

/-- How a block is mixed into five words of 32 bits. -/
def mixFive (state : List Nat) (block : Array Nat) : List Nat :=
  let words := (List.range 64).foldl (fun (words : Array Nat) i =>
    let at_ (back : Nat) : Nat := words.getD (i + 16 - back) 0
    words.push (turn 32 31 (at_ 3 ^^^ at_ 8 ^^^ at_ 14 ^^^ at_ 16))) block
  let step (s : List Nat) (i : Nat) : List Nat :=
    match s with
    | [a, b, c, d, e] =>
      let (f, k) :=
        if i < 20 then ((b &&& c) ||| (invert 32 b &&& d), 0x5a827999)
        else if i < 40 then (b ^^^ c ^^^ d, 0x6ed9eba1)
        else if i < 60 then ((b &&& c) ||| (b &&& d) ||| (c &&& d), 0x8f1bbcdc)
        else (b ^^^ c ^^^ d, 0xca62c1d6)
      [fit 32 (turn 32 27 a + f + e + k + words.getD i 0), a, turn 32 2 b, c, d]
    | s => s
  (state.zip ((List.range 80).foldl step state)).map fun (a, b) => fit 32 (a + b)

/-- How a block is mixed into four words of 32 bits. -/
def mixFour (state : List Nat) (block : Array Nat) : List Nat :=
  let turns : List (List Nat) := [[7, 12, 17, 22], [5, 9, 14, 20], [4, 11, 16, 23], [6, 10, 15, 21]]
  let step (s : List Nat) (i : Nat) : List Nat :=
    match s with
    | [a, b, c, d] =>
      let (f, index) :=
        if i < 16 then ((b &&& c) ||| (invert 32 b &&& d), i)
        else if i < 32 then ((d &&& b) ||| (invert 32 d &&& c), (5 * i + 1) % 16)
        else if i < 48 then (b ^^^ c ^^^ d, (3 * i + 5) % 16)
        else (c ^^^ (b ||| invert 32 d), 7 * i % 16)
      let size := Float.abs (Float.sin (Float.ofNat (i + 1)))
      let constant := (size * 4294967296.0).floor.toUInt64.toNat
      let by_ := (turns.getD (i / 16) []).getD (i % 4) 0
      let new := fit 32 (a + f + constant + block.getD index 0)
      [d, fit 32 (b + turn 32 (32 - by_) new), b, c]
    | s => s
  (state.zip ((List.range 64).foldl step state)).map fun (a, b) => fit 32 (a + b)

/-- How words are spread: two turns and a shift, or three turns. -/
structure Spreading where
  /-- For the words of a block. -/
  early : Nat × Nat × Nat
  late : Nat × Nat × Nat
  /-- For the words of the state. -/
  first : Nat × Nat × Nat
  second : Nat × Nat × Nat

/-- How words of 32 bits are spread. -/
def spreading32 : Spreading := ⟨(7, 18, 3), (17, 19, 10), (2, 13, 22), (6, 11, 25)⟩

/-- How words of 64 bits are spread. -/
def spreading64 : Spreading := ⟨(1, 8, 7), (19, 61, 6), (28, 34, 39), (14, 18, 41)⟩

/-- How a block is mixed into eight words. -/
def mixEight (width : Nat) (p : Spreading) (constants : List Nat) (state : List Nat)
    (block : Array Nat) : List Nat :=
  let shifted (t : Nat × Nat × Nat) (n : Nat) : Nat :=
    turn width t.1 n ^^^ turn width t.2.1 n ^^^ (n >>> t.2.2)
  let turned (t : Nat × Nat × Nat) (n : Nat) : Nat :=
    turn width t.1 n ^^^ turn width t.2.1 n ^^^ turn width t.2.2 n
  let words := (List.range (constants.length - 16)).foldl (fun (words : Array Nat) i =>
    let at_ (back : Nat) : Nat := words.getD (i + 16 - back) 0
    words.push (fit width (shifted p.late (at_ 2) + at_ 7 + shifted p.early (at_ 15) + at_ 16)))
    block
  let step (s : List Nat) (found : Nat × Nat) : List Nat :=
    match s with
    | [a, b, c, d, e, f, g, h] =>
      let choice := (e &&& f) ^^^ (invert width e &&& g)
      let majority := (a &&& b) ^^^ (a &&& c) ^^^ (b &&& c)
      let one := h + turned p.second e + choice + found.1 + found.2
      let two := turned p.first a + majority
      [fit width (one + two), a, b, c, fit width (d + one), e, f, g]
    | s => s
  (state.zip ((constants.zip words.toList).foldl step state)).map fun (a, b) => fit width (a + b)

/-- The digits of words in base sixteen. -/
def digits (width : Nat) (highFirst : Bool) (words : List Nat) : Text :=
  words.flatMap fun w =>
    let all := octets (width / 8) w
    (if highFirst then all else all.reverse).flatMap fun o =>
      [Nat.digitChar (o / 16), Nat.digitChar (o % 16)]

/-- The words that the kinds with four and five words start from. -/
def start : List Nat := [0x67452301, 0xefcdab89, 0x98badcfe, 0x10325476, 0xc3d2e1f0]

/-- The digest with four words. -/
def four (text : Text) : Text :=
  digits 32 false ((blocks 32 false text).foldl mixFour (start.take 4))

/-- The digest with five words. -/
def five (text : Text) : Text := digits 32 true ((blocks 32 true text).foldl mixFive start)

/-- A digest with eight words, of which so many bits are kept, that starts from certain words. -/
def eight (width bits rounds : Nat) (p : Spreading) (first : List Nat) (text : Text) : Text :=
  let constants := (primes.take rounds).map (behindPoint width 3)
  let words := (blocks width true text).foldl (mixEight width p constants) first
  (digits width true words).take (bits / 4)

/-- The words that roots of the first prime numbers give, or of those after them. -/
def startOf (width : Nat) (later : Bool) : List Nat :=
  ((primes.drop (if later then 8 else 0)).take 8).map (behindPoint width 2)

end Digest

/-- The digests that there are, by the names of their utilities. -/
def digests : List (String × (Text → Text)) :=
  [("md5sum", Digest.four), ("sha1sum", Digest.five),
    ("sha224sum", Digest.eight 32 224 64 Digest.spreading32
      ((Digest.startOf 64 true).map (Digest.fit 32))),
    ("sha256sum", Digest.eight 32 256 64 Digest.spreading32 (Digest.startOf 32 false)),
    ("sha384sum", Digest.eight 64 384 80 Digest.spreading64 (Digest.startOf 64 true)),
    ("sha512sum", Digest.eight 64 512 80 Digest.spreading64 (Digest.startOf 64 false))]

/-- Writes the digests of inputs. -/
def digest (name : String) (of : Text → Text) (words : List Text) : Activity Nat :=
  withOptions name ⟨['b', 't', 'z', 'T'], [],
    [("binary", 'b'), ("text", 't'), ("zero", 'z'), ("tag", 'T')]⟩ words failed fun o => do
    let (found, status) ← readEach name o.operands
    let line (path text : Text) : Text :=
      of text ++ (if o.has 'b' then [' ', '*'] else [' ', ' ']) ++ path ++
        [if o.has 'z' then '\x00' else '\n']
    printing name (found.flatMap fun (path, text) => line path text) status

/-- Mixes an octet into a redundancy check. -/
def Digest.check (sum octet : Nat) : Nat :=
  (List.range 8).foldl (fun (sum : Nat) _ =>
    let next := fit 32 (sum * 2)
    if 2147483648 ≤ sum then next ^^^ 0x04c11db7 else next) (sum ^^^ (octet <<< 24))

/-- The redundancy check of a text. -/
def Digest.checkOf (text : Text) : Nat :=
  let length := (octets 8 text.length).dropWhile (· == 0)
  invert 32 ((text.map Char.toNat ++ length.reverse).foldl check 0)

/-- Writes the redundancy checks and sizes of inputs. -/
def cksum (words : List Text) : Activity Nat :=
  withOptions "cksum" ⟨[], [], []⟩ words failed fun o => do
    let (found, status) ← readEach "cksum" o.operands
    let line (path text : Text) : Text :=
      ofNat (Digest.checkOf text) ++ ' ' :: ofNat text.length ++
        (if o.operands = [] then [] else ' ' :: path) ++ ['\n']
    printing "cksum" (found.flatMap fun (path, text) => line path text) status

/-- Writes the rotating sums of inputs and how many blocks they have. -/
def sum (words : List Text) : Activity Nat :=
  withOptions "sum" ⟨['r', 's'], [], [("sysv", 's')]⟩ words failed fun o => do
    let (found, status) ← readEach "sum" o.operands
    let line (path text : Text) : Text :=
      let name := if o.operands = [] then [] else ' ' :: path
      if o.has 's' then
        let total := text.foldl (fun n c => n + c.toNat) 0 % 4294967296
        let folded := total % 65536 + total / 65536
        ofNat (folded % 65536 + folded / 65536) ++ ' ' :: ofNat ((text.length + 511) / 512) ++
          name ++ ['\n']
      else
        let total := text.foldl (fun n c =>
          Digest.fit 16 (Digest.turn 16 1 n + c.toNat)) 0
        let digits := ofNat total
        let blocks := ofNat ((text.length + 1023) / 1024)
        List.replicate (5 - digits.length) '0' ++ digits ++ ' ' ::
          List.replicate (5 - blocks.length) ' ' ++ blocks ++ name ++ ['\n']
    printing "sum" (found.flatMap fun (path, text) => line path text) status

end LspSession.Utility
