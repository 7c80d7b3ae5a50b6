import Rundler.Types.Primitives

/-! # ABI encoding and decoding

`ethers::abi::encode` and `ethers::abi::decode` for the kinds of value the bundler encodes and
decodes: addresses, `uint256`s, dynamic `bytes` and `string`s. The encoding is the contract ABI's
head/tail layout. Every value has a one-word head; a dynamic value's head holds the offset of its
tail, and its tail is a length word followed by the bytes right-padded with zeros to a whole
number of words. A `string` is laid out as `bytes`, and the decoder turns its bytes into text by
`String::from_utf8_lossy` (`fromUtf8Lossy`).

Offsets and lengths are written and read as whole `uint256` words, as the ABI defines them.
ethabi 18 writes them as `u32`s (`pad_u32`) and its decoder refuses such a word of `2 ^ 32` or
more, so the model agrees with ethers only on encodings shorter than `2 ^ 32` bytes.

The main result is `decodeFrom_encode`: decoding an encoding by the kinds of its values gives
the values back, whatever follows the encoding.
-/

namespace Rundler.Abi

/-! ## Words -/

/-- The `width` big-endian bytes of `value`, taken modulo `256 ^ width`. -/
def beBytes : Nat → Nat → List UInt8
  | 0, _ => []
  | width + 1, value => UInt8.ofNat (value / 256 ^ width % 256) :: beBytes width value

/-- The number that a big-endian byte string holds. -/
def readBe (bytes : List UInt8) : Nat := bytes.foldl (fun acc b => acc * 256 + b.toNat) 0

/-- The 32-byte word of a `uint256`: how a number, an address, an offset or a length is
written. -/
def word (value : Nat) : List UInt8 := beBytes 32 value

@[simp] theorem length_beBytes : ∀ width value, (beBytes width value).length = width
  | 0, _ => rfl
  | width + 1, value => by simp [beBytes, length_beBytes width]

@[simp] theorem length_word (value : Nat) : (word value).length = 32 := length_beBytes 32 value

/-- Reading on from an accumulated value shifts it past the bytes that are left. -/
theorem foldl_readBe (bytes : List UInt8) (acc : Nat) :
    bytes.foldl (fun acc b => acc * 256 + b.toNat) acc =
      acc * 256 ^ bytes.length + readBe bytes := by
  induction bytes generalizing acc with
  | nil => simp [readBe]
  | cons b bs ih =>
    rw [List.foldl_cons, ih, show readBe (b :: bs) = bs.foldl _ (0 * 256 + b.toNat) from rfl,
      ih, List.length_cons, Nat.pow_succ]
    ring

/-- Big-endian bytes read back as the value modulo the width's range. -/
theorem readBe_beBytes : ∀ width value, readBe (beBytes width value) = value % 256 ^ width
  | 0, _ => by simp [readBe, beBytes, Nat.mod_one]
  | width + 1, value => by
    rw [beBytes, readBe, List.foldl_cons, foldl_readBe, readBe_beBytes width, length_beBytes,
      UInt8.toNat_ofNat_of_lt (Nat.mod_lt _ (by decide)), Nat.mod_pow_succ]
    ring

theorem readBe_word (value : Nat) : readBe (word value) = value % 2 ^ 256 := by
  rw [word, readBe_beBytes]; rfl

/-- A word determines the number it holds, below `2 ^ 256`. -/
theorem word_injective {a b : Nat} (ha : a < 2 ^ 256) (hb : b < 2 ^ 256)
    (h : word a = word b) : a = b := by
  have h' := congrArg readBe h
  rwa [readBe_word, readBe_word, Nat.mod_eq_of_lt ha, Nat.mod_eq_of_lt hb] at h'

/-! ## Encoding -/

/-- Zero bytes that fill `len` bytes up to a whole number of words. -/
def padLen (len : Nat) : Nat := (32 - len % 32) % 32

theorem padLen_lt (len : Nat) : padLen len < 32 := Nat.mod_lt _ (by decide)

/-- `pad_bytes_append`: the length word of `data`, then `data` right-padded with zeros to a
whole number of words. -/
def padBytes (data : List UInt8) : List UInt8 :=
  word data.length ++ data ++ List.replicate (padLen data.length) 0

@[simp] theorem length_padBytes (data : List UInt8) :
    (padBytes data).length = 32 + data.length + padLen data.length := by
  simp [padBytes, Nat.add_assoc]

/-- `ParamType`: the kinds of value the bundler encodes and decodes. -/
inductive ParamType
  | address
  | uint
  | bytes
deriving DecidableEq, Repr

/-- `Token`: a value of one of the kinds in `ParamType`. -/
inductive Token
  | address (a : Address)
  | uint (v : U256)
  | bytes (b : Bytes)
deriving DecidableEq

namespace Token

/-- The kind of a token. -/
def kind : Token → ParamType
  | address _ => .address
  | uint _ => .uint
  | bytes _ => .bytes

/-- The number in the token's head word when its tail starts at byte `offset`. -/
def headValue (offset : Nat) : Token → Nat
  | address a => a.val
  | uint v => v.val
  | bytes _ => offset

/-- The token's tail; a static value has none. -/
def tail : Token → List UInt8
  | bytes b => padBytes b.data
  | _ => []

end Token

/-- The heads of `tokens`, the first tail starting at byte `offset` (`encode_head_tail_append`'s
first loop: the offset moves past each token's tail). -/
def encodeHeads : Nat → List Token → List UInt8
  | _, [] => []
  | offset, t :: ts => word (t.headValue offset) ++ encodeHeads (offset + t.tail.length) ts

/-- `encode`: every head, then every tail; the tails start right after the heads. -/
def encode (tokens : List Token) : List UInt8 :=
  encodeHeads (32 * tokens.length) tokens ++ (tokens.map Token.tail).flatten

@[simp] theorem length_encodeHeads : ∀ offset tokens,
    (encodeHeads offset tokens).length = 32 * tokens.length
  | _, [] => rfl
  | offset, t :: ts => by
    simp only [encodeHeads, List.length_append, length_word, length_encodeHeads _ ts,
      List.length_cons]
    omega

/-- A `bytes` value at the end moves no head before it: its own head is the offset just past
every earlier tail. -/
theorem encodeHeads_append_bytes : ∀ offset (tokens : List Token) (b : Bytes),
    encodeHeads offset (tokens ++ [.bytes b]) =
      encodeHeads offset tokens ++ word (offset + (tokens.map Token.tail).flatten.length)
  | offset, [], b => by simp [encodeHeads, Token.headValue]
  | offset, t :: ts, b => by
    simp [encodeHeads, encodeHeads_append_bytes _ ts b, Nat.add_assoc]

/-- The encoding of values ending in a `bytes` value is the encoding of the rest of the heads,
that value's offset, the earlier tails, and last that value's tail. -/
theorem encode_append_bytes (tokens : List Token) (b : Bytes) :
    encode (tokens ++ [.bytes b]) =
      encodeHeads (32 * (tokens.length + 1)) tokens ++
        word (32 * (tokens.length + 1) + (tokens.map Token.tail).flatten.length) ++
        (tokens.map Token.tail).flatten ++ padBytes b.data := by
  simp [encode, encodeHeads_append_bytes, Token.tail]

/-! ## Strings -/

/-- A continuation byte, `0x80 ..= 0xBF`: one whose `i8` value is below `-64`. -/
def isContinuation (b : UInt8) : Bool := 0x80 ≤ b && b ≤ 0xBF

/-- What `Utf8Chunks` accepts after a lead byte: the width of the character it starts
(`utf8_char_width`) and the range its second byte must lie in. None for a byte that starts no
character. -/
def leadRange (b : UInt8) : Option (Nat × UInt8 × UInt8) :=
  if 0xC2 ≤ b ∧ b ≤ 0xDF then some (2, 0x80, 0xBF)
  else if b = 0xE0 then some (3, 0xA0, 0xBF)
  else if 0xE1 ≤ b ∧ b ≤ 0xEC then some (3, 0x80, 0xBF)
  else if b = 0xED then some (3, 0x80, 0x9F)
  else if 0xEE ≤ b ∧ b ≤ 0xEF then some (3, 0x80, 0xBF)
  else if b = 0xF0 then some (4, 0x90, 0xBF)
  else if 0xF1 ≤ b ∧ b ≤ 0xF3 then some (4, 0x80, 0xBF)
  else if b = 0xF4 then some (4, 0x80, 0x8F)
  else none

/-- The character that a lead byte and its continuation bytes encode: the lead's low bits, then
six bits from each continuation byte. -/
def decodeChar (lead : UInt8) (conts : List UInt8) : Char :=
  Char.ofNat (conts.foldl (fun acc c => acc * 64 + c.toNat % 64)
    (lead.toNat % 2 ^ (6 - conts.length)))

/-- `U+FFFD`, which stands for each invalid sequence. -/
def replacementChar : Char := Char.ofNat 0xFFFD

/-- The characters of `String::from_utf8_lossy`. `Utf8Chunks` reads one sequence at a time. A
sequence breaks at the first byte that cannot continue it (or at the end of the input), and
the bytes read up to there, the lead byte and the continuation bytes that fitted, become one
`U+FFFD`; the byte that broke the sequence starts the next one. -/
def lossyChars : List UInt8 → List Char
  | [] => []
  | b :: rest =>
    if b < 0x80 then Char.ofNat b.toNat :: lossyChars rest
    else
      match leadRange b with
      | none => replacementChar :: lossyChars rest
      | some (width, lo, hi) =>
        match rest with
        | [] => [replacementChar]
        | c :: rest₁ =>
          if ¬ (lo ≤ c ∧ c ≤ hi) then replacementChar :: lossyChars (c :: rest₁)
          else if width = 2 then decodeChar b [c] :: lossyChars rest₁
          else
            match rest₁ with
            | [] => [replacementChar]
            | d :: rest₂ =>
              if ¬ isContinuation d then replacementChar :: lossyChars (d :: rest₂)
              else if width = 3 then decodeChar b [c, d] :: lossyChars rest₂
              else
                match rest₂ with
                | [] => [replacementChar]
                | e :: rest₃ =>
                  if ¬ isContinuation e then replacementChar :: lossyChars (e :: rest₃)
                  else decodeChar b [c, d, e] :: lossyChars rest₃

/-- `String::from_utf8_lossy`. -/
def fromUtf8Lossy (bytes : List UInt8) : String := ⟨lossyChars bytes⟩

/-- The example of the documentation of `String::from_utf8_lossy`: a four-byte sequence cut
short becomes one `U+FFFD`, and the byte after it is read again. -/
example : lossyChars [0x48, 0xF0, 0x90, 0x80, 0x57] = ['H', replacementChar, 'W'] := by decide

/-- A surrogate's encoding breaks after its lead byte, and each of the two bytes after it starts
no character: three replacements. Two bytes of `é` decode. -/
example : lossyChars [0xED, 0xA0, 0x80, 0xC3, 0xA9] =
    [replacementChar, replacementChar, replacementChar, Char.ofNat 0xE9] := by decide

/-! ## Decoding -/

/-- `peek_32_bytes`: the word at byte `pos` of `data`, if `data` holds one there. -/
def wordAt (data : List UInt8) (pos : Nat) : Option Nat :=
  if pos + 32 ≤ data.length then some (readBe ((data.drop pos).take 32)) else none

/-- The dynamic `bytes` whose head word is at byte `pos`: the offset in the head, the length
word at that offset, then that many bytes (`take_bytes`). -/
def bytesAt (data : List UInt8) (pos : Nat) : Option (List UInt8) := do
  let offset ← wordAt data pos
  let len ← wordAt data offset
  if offset + 32 + len ≤ data.length then some ((data.drop (offset + 32)).take len) else none

/-- `decode_param`: the value of kind `type` whose head word is at byte `pos`. An address is the
last twenty bytes of its word, a `uint256` the whole word, and a `bytes` length must be a
`usize`. -/
def decodeParam (data : List UInt8) (pos : Nat) : ParamType → Option Token
  | .address => (wordAt data pos).map fun v => .address ⟨v % 2 ^ 160, Nat.mod_lt _ (by decide)⟩
  | .uint => (wordAt data pos).map fun v => .uint ⟨v % 2 ^ 256, Nat.mod_lt _ (by decide)⟩
  | .bytes => (bytesAt data pos).bind fun b =>
      if h : b.length < 2 ^ 64 then some (.bytes ⟨b, h⟩) else none

/-- The values of `types`, their heads one word after another from byte `pos`. -/
def decodeFrom (data : List UInt8) : Nat → List ParamType → Option (List Token)
  | _, [] => some []
  | pos, type :: types => do
    let t ← decodeParam data pos type
    let ts ← decodeFrom data (pos + 32) types
    pure (t :: ts)

/-- `decode`: the values of `types` encoded at the start of `data`; bytes after the encoding
are ignored. -/
def decode (types : List ParamType) (data : List UInt8) : Option (List Token) :=
  decodeFrom data 0 types

/-- Reading past a prefix is reading the rest from where it starts. -/
theorem wordAt_append_left (pre data : List UInt8) (pos : Nat) :
    wordAt (pre ++ data) (pre.length + pos) = wordAt data pos := by
  simp only [wordAt, List.length_append, List.drop_append]
  congr 1
  simp only [Nat.add_assoc, Nat.add_le_add_iff_left]

@[simp] theorem wordAt_word_append (value : Nat) (post : List UInt8) :
    wordAt (word value ++ post) 0 = some (value % 2 ^ 256) := by
  simp [wordAt, List.take_left' (length_word value), readBe_word]

/-- A word written after `pre` reads back at `pre`'s length. -/
theorem wordAt_append_word (pre post : List UInt8) (value : Nat) :
    wordAt (pre ++ word value ++ post) pre.length = some (value % 2 ^ 256) := by
  rw [List.append_assoc, ← Nat.add_zero pre.length, wordAt_append_left, wordAt_word_append]

/-- The head of the `i`-th value holds what that value writes when its tail starts past the
tails of the values before it. -/
theorem wordAt_encodeHeads : ∀ (tokens : List Token) (offset i : Nat) (h : i < tokens.length)
    (rest : List UInt8), wordAt (encodeHeads offset tokens ++ rest) (32 * i) =
      some (tokens[i].headValue
        (offset + ((tokens.map Token.tail).take i).flatten.length) % 2 ^ 256)
  | t :: ts, offset, 0, _, rest => by simp [encodeHeads]
  | t :: ts, offset, i + 1, h, rest => by
    have shift := wordAt_append_left (word (t.headValue offset))
      (encodeHeads (offset + t.tail.length) ts ++ rest) (32 * i)
    rw [length_word] at shift
    rw [show 32 * (i + 1) = 32 + 32 * i by omega, encodeHeads, List.append_assoc, shift,
      wordAt_encodeHeads ts _ i (by simpa using h)]
    simp [Nat.add_assoc]

/-- A `bytes` value whose head word points at its tail reads back whole. -/
theorem bytesAt_eq {data pre post b : List UInt8} {pos : Nat}
    (hdata : data = pre ++ padBytes b ++ post) (hpos : wordAt data pos = some pre.length)
    (hb : b.length < 2 ^ 256) : bytesAt data pos = some b := by
  subst hdata
  have hlen : wordAt (pre ++ padBytes b ++ post) pre.length = some b.length := by
    rw [← Nat.add_zero pre.length, List.append_assoc, wordAt_append_left]
    simp only [padBytes, List.append_assoc, wordAt_word_append, Nat.mod_eq_of_lt hb]
  have hroom : pre.length + 32 + b.length ≤ (pre ++ padBytes b ++ post).length := by
    simp only [List.length_append, length_padBytes]; omega
  simp only [bytesAt, hpos, hlen, Option.bind_eq_bind, Option.some_bind, if_pos hroom]
  have hdrop : (pre ++ padBytes b ++ post).drop (pre.length + 32) =
      b ++ (List.replicate (padLen b.length) 0 ++ post) := by
    simp only [padBytes, List.append_assoc]
    rw [List.drop_append, ← length_word b.length, List.drop_left]
  rw [hdrop, List.take_left]

/-- The encoding laid out around its `i`-th value: the heads and the earlier tails, that value's
tail, then the later tails. -/
theorem encode_split (tokens : List Token) (i : Nat) (h : i < tokens.length) :
    encode tokens = encodeHeads (32 * tokens.length) tokens ++
      ((tokens.map Token.tail).take i).flatten ++ tokens[i].tail ++
      ((tokens.map Token.tail).drop (i + 1)).flatten := by
  have hmap : tokens.map Token.tail = (tokens.map Token.tail).take i ++
      tokens[i].tail :: (tokens.map Token.tail).drop (i + 1) := by
    conv_lhs => rw [← List.take_append_drop i (tokens.map Token.tail),
      List.drop_eq_getElem_cons (by simpa using h)]
    simp
  rw [encode]
  conv_lhs => rw [hmap]
  simp [List.append_assoc]

theorem decodeParam_address {data : List UInt8} {pos v : Nat} (h : wordAt data pos = some v)
    (hv : v < 2 ^ 160) : decodeParam data pos .address = some (.address ⟨v, hv⟩) := by
  rw [decodeParam, h, Option.map_some']
  exact congrArg some (congrArg Token.address (Fin.ext (Nat.mod_eq_of_lt hv)))

theorem decodeParam_uint {data : List UInt8} {pos v : Nat} (h : wordAt data pos = some v)
    (hv : v < 2 ^ 256) : decodeParam data pos .uint = some (.uint ⟨v, hv⟩) := by
  rw [decodeParam, h, Option.map_some']
  exact congrArg some (congrArg Token.uint (Fin.ext (Nat.mod_eq_of_lt hv)))

/-- Each value of an encoding decodes from its head position, when the encoding's offsets fit a
word. -/
theorem decodeParam_encode (tokens : List Token) (rest : List UInt8)
    (hfit : (encode tokens).length < 2 ^ 256) (i : Nat) (h : i < tokens.length) :
    decodeParam (encode tokens ++ rest) (32 * i) tokens[i].kind = some tokens[i] := by
  have hhead := wordAt_encodeHeads tokens (32 * tokens.length) i h
    (((tokens.map Token.tail)).flatten ++ rest)
  rw [← List.append_assoc, ← encode] at hhead
  have hsplit := encode_split tokens i h
  revert hhead hsplit
  cases tokens[i] with
  | address a =>
    intro hhead _
    rw [Token.headValue, Nat.mod_eq_of_lt (lt_trans a.isLt (by decide))] at hhead
    exact decodeParam_address hhead a.isLt
  | uint v =>
    intro hhead _
    rw [Token.headValue, Nat.mod_eq_of_lt v.isLt] at hhead
    exact decodeParam_uint hhead v.isLt
  | bytes b =>
    intro hhead hsplit
    have hdata : encode tokens ++ rest = (encodeHeads (32 * tokens.length) tokens ++
        ((tokens.map Token.tail).take i).flatten) ++ padBytes b.data ++
        (((tokens.map Token.tail).drop (i + 1)).flatten ++ rest) := by
      rw [hsplit, Token.tail]; simp only [List.append_assoc]
    have hoff : 32 * tokens.length + ((tokens.map Token.tail).take i).flatten.length <
        2 ^ 256 := by
      rw [hsplit] at hfit; simp only [List.length_append, length_encodeHeads] at hfit; omega
    have hread := bytesAt_eq hdata (by
      rw [hhead, Token.headValue, Nat.mod_eq_of_lt hoff]; simp)
      (lt_trans b.length_lt (by decide))
    rw [Token.kind, decodeParam, hread, Option.some_bind, dif_pos b.length_lt]

/-- Decoding from the `j`-th head on gives back the values from the `j`-th on. -/
theorem decodeFrom_encode (tokens : List Token) (rest : List UInt8)
    (hfit : (encode tokens).length < 2 ^ 256) :
    ∀ (suffix : List Token) (j : Nat), tokens.drop j = suffix →
      decodeFrom (encode tokens ++ rest) (32 * j) (suffix.map Token.kind) = some suffix
  | [], _, _ => rfl
  | t :: suffix, j, hdrop => by
    have hj : j < tokens.length := by
      have := congrArg List.length hdrop
      simp only [List.length_drop, List.length_cons] at this; omega
    rw [List.drop_eq_getElem_cons hj, List.cons.injEq] at hdrop
    obtain ⟨rfl, hrest⟩ := hdrop
    have hnext := decodeFrom_encode tokens rest hfit suffix (j + 1) hrest
    rw [show 32 * (j + 1) = 32 * j + 32 by omega] at hnext
    rw [List.map_cons, decodeFrom, decodeParam_encode tokens rest hfit j hj, hnext]
    rfl

end Rundler.Abi
