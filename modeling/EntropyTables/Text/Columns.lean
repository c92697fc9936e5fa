import EntropyTables.Text.Emoji
import EntropyTables.Text.Extend
import EntropyTables.Text.Ignorable
import EntropyTables.Text.Wide
/-!
# The columns that a text takes

A character alone takes two columns if it is wide in East Asian text, none if it extends the
character before it or is ignorable, and one otherwise. Some characters join the one after them and
then take fewer columns, or more: the parts of an emoji, a line break of two characters, and letters
that some scripts write as one. So a text is measured from its end, and what was measured so far
leaves a `Context` that the character before it may join.
-/
namespace EntropyTables.Text

/-! ## Characters alone -/

/-- The ranges of the characters that take no column without extending the character before them or
being ignorable: the inner and final parts of Korean syllables, and signs that stand above, below or
around what follows them. -/
def flatRanges : List (Nat × Nat) :=
  [(0x605, 0x605), (0x70F, 0x70F), (0x890, 0x891), (0x8E2, 0x8E2), (0xD4E, 0xD4E), (0x1160, 0x11FF),
   (0xA8FA, 0xA8FA), (0xD7B0, 0xD7C6), (0xD7CB, 0xD7FB), (0x111C2, 0x111C3), (0x113D1, 0x113D1),
   (0x1193F, 0x1193F), (0x11941, 0x11941), (0x11A84, 0x11A89), (0x11D46, 0x11D46),
   (0x11F02, 0x11F02)]

def charColumns (c : Char) : Nat :=
  let n := c.toNat
  if n ≤ 0xA0 then 1
  else if n = 0x2D7F then 1
  else if n = 0x115F ∨ n = 0x17A4 then 2
  else if n = 0x17D8 then 3
  else if inRanges extendRanges n || inRanges ignorableRanges n || inRanges flatRanges n then 0
  else if inRanges wideRanges n then 2
  else 1

/-! ## What a character may join -/

/-- What the text after a character starts with, as far as the character may join it. -/
inductive Joint where
  | nothing
  | lineFeed
  /-- An Arabic alef, which a lam before it joins. -/
  | alef
  | hebrewLamed
  | bugineseYa
  /-- The vowel of a Buginese syllable that ends in ya. -/
  | bugineseVowel
  /-- A Khmer letter that can stand below another. -/
  | khmerLetter
  | tifinagh
  /-- The sign that joins Tifinagh letters, and the second of them. -/
  | tifinaghJoined
  /-- A Lisu tone that can be the second of two. -/
  | lisuTone
  | turkicI
  /-- The Kirat Rai vowel E, which is the end of other vowels. -/
  | kiratE
  /-- The Kirat Rai vowel AI, which is two of E. -/
  | kiratAi
  /-- A skin tone. -/
  | tone
  | regional
  /-- A flag, and maybe more regional indicators. -/
  | regionals
  /-- A picture. -/
  | picture
  /-- A joiner, and the picture after it. -/
  | joined
  /-- The box of a key before a joiner. -/
  | joinedKey
  | joinedRegional
  /-- An even number of regional indicators before a joiner. -/
  | joinedFlags
  /-- An odd number of them, three or more. -/
  | joinedOdd
  /-- The end of a flag of tags before a joiner, with that many letters so far. -/
  | tagLetters (n : Nat)
  /-- The same, with that many digits so far. -/
  | tagDigits (n : Nat)
  deriving DecidableEq, Repr, Inhabited

/-- What a variation selector asks for. -/
inductive Presentation where
  | text
  | picture
  deriving DecidableEq, Repr, Inhabited

/-- What was measured so far, from the end of the text. -/
structure Context where
  joint : Joint
  /-- A joiner stands before it. -/
  joiner : Bool
  /-- A variation selector stands before it. -/
  selector : Option Presentation
  deriving DecidableEq, Repr, Inhabited

namespace Joint

/-- The letters of a script join here, also across a variation selector. -/
def isScript : Joint → Bool
  | alef | hebrewLamed | bugineseYa | bugineseVowel | khmerLetter | tifinagh | tifinaghJoined
  | lisuTone | turkicI => true
  | _ => false

/-- A picture joins here, across a variation selector for pictures. -/
def isJoined : Joint → Bool
  | joined | joinedKey => true
  | _ => false

/-- A joiner may stand before it and makes what is before the joiner join. -/
def takesJoiner : Joint → Bool
  | picture | tone | regionals | joinedFlags | joinedOdd => true
  | _ => false

end Joint

namespace Context

def nothing : Context := ⟨.nothing, false, none⟩

def of (joint : Joint) : Context := ⟨joint, false, none⟩

end Context

/-! ## Classes of letters -/

def isLam (c : Char) : Bool :=
  inRanges [(0x644, 0x644), (0x6B5, 0x6B8), (0x76A, 0x76A), (0x8A6, 0x8A6), (0x8C7, 0x8C7)] c.toNat

def isAlef (c : Char) : Bool :=
  inRanges [(0x622, 0x623), (0x625, 0x625), (0x627, 0x627), (0x671, 0x673), (0x675, 0x675),
    (0x773, 0x774), (0x870, 0x882)] c.toNat

/-- The ranges of the characters that extend the one before them and yet part Arabic letters. -/
def partingRanges : List (Nat × Nat) :=
  [(0x9BE, 0x9BE), (0x9D7, 0x9D7), (0xB3E, 0xB3E), (0xB57, 0xB57), (0xBBE, 0xBBE), (0xBD7, 0xBD7),
   (0xCC0, 0xCC0), (0xCC2, 0xCC2), (0xCC7, 0xCC8), (0xCCA, 0xCCB), (0xCD5, 0xCD6), (0xD3E, 0xD3E),
   (0xD57, 0xD57), (0xDCF, 0xDCF), (0xDDF, 0xDDF), (0x1715, 0x1715), (0x1734, 0x1734),
   (0x1B35, 0x1B35), (0x1B3B, 0x1B3B), (0x1B3D, 0x1B3D), (0x1B43, 0x1B44), (0x1BAA, 0x1BAA),
   (0x1BF2, 0x1BF3), (0x200C, 0x200C), (0x2D7F, 0x2D7F), (0x302E, 0x302F), (0xA953, 0xA953),
   (0xA9C0, 0xA9C0), (0x111C0, 0x111C0), (0x11235, 0x11235), (0x1133E, 0x1133E), (0x1134D, 0x1134D),
   (0x11357, 0x11357), (0x113B8, 0x113B8), (0x113C2, 0x113C2), (0x113C5, 0x113C5),
   (0x113C7, 0x113C9), (0x113CF, 0x113CF), (0x114B0, 0x114B0), (0x114BD, 0x114BD),
   (0x115AF, 0x115AF), (0x116B6, 0x116B6), (0x11930, 0x11930), (0x1193D, 0x1193D),
   (0x11F41, 0x11F41), (0x16FF0, 0x16FF1), (0x1D165, 0x1D166), (0x1D16D, 0x1D172)]

/-- The ranges of the format characters that do not part Arabic letters. -/
def throughRanges : List (Nat × Nat) :=
  [(0xAD, 0xAD), (0x61C, 0x61C), (0x70F, 0x70F), (0x200B, 0x200B), (0x200E, 0x200F),
   (0x202A, 0x202E), (0x2060, 0x2064), (0x206A, 0x206F), (0xFEFF, 0xFEFF), (0x1BCA0, 0x1BCA3),
   (0x1D173, 0x1D17A), (0xE0001, 0xE0001)]

def isThrough (c : Char) : Bool :=
  (inRanges extendRanges c.toNat && !inRanges partingRanges c.toNat)
    || inRanges throughRanges c.toNat

/-- The letters of other scripts join across the character, which is an ignorable mark. -/
def isSilent (c : Char) : Bool :=
  inRanges [(0x34F, 0x34F), (0x17B4, 0x17B5), (0x180B, 0x180D), (0x180F, 0x180F), (0xFE00, 0xFE0F),
    (0xE0100, 0xE01EF)] c.toNat

def isKhmerLetter (c : Char) : Bool :=
  inRanges [(0x1780, 0x1782), (0x1784, 0x1787), (0x1789, 0x178C), (0x178E, 0x1793),
    (0x1795, 0x1798), (0x179B, 0x179D), (0x17A0, 0x17A0), (0x17A2, 0x17A2), (0x17A7, 0x17A7),
    (0x17AB, 0x17AC), (0x17AF, 0x17AF)] c.toNat

def isTifinagh (c : Char) : Bool := inRanges [(0x2D31, 0x2D65), (0x2D6F, 0x2D6F)] c.toNat

/-- A variation selector for text makes the character take one column. -/
def isText (c : Char) : Bool :=
  isVariable c && isPicture c && !(0x1F200 ≤ c.toNat && c.toNat ≤ 0x1F2FF)

/-- What the character leaves to be joined when it stands alone. -/
def jointOf (c : Char) : Joint :=
  let n := c.toNat
  if n < 0x100 then .nothing
  else if isAlef c then .alef
  else if n = 0x5DC then .hebrewLamed
  else if isKhmerLetter c then .khmerLetter
  else if n = 0x1A10 then .bugineseYa
  else if isTifinagh c then .tifinagh
  else if n = 0xA4FC ∨ n = 0xA4FD then .lisuTone
  else if n = 0x10C03 then .turkicI
  else if n = 0x16D67 then .kiratE
  else if n = 0x16D68 then .kiratAi
  else if isTone c then .tone
  else if isRegional c then .regional
  else if isPicture c then .picture
  else .nothing

/-! ## Joining -/

/-- How a character joins the letters of its script: the columns that it adds, and what can be
joined then. -/
def joinScript? (c : Char) (joint : Joint) (joiner : Bool) : Option (Int × Context) :=
  let n := c.toNat
  match joint with
  | .alef =>
    if isLam c then some (0, .nothing) else if isThrough c then some (0, .of .alef) else none
  | .hebrewLamed => if joiner && n == 0x5D0 then some (0, .nothing) else none
  | .khmerLetter => if n = 0x17D2 then some (-1, .nothing) else none
  | .bugineseYa => if joiner && n == 0x1A17 then some (0, .of .bugineseVowel) else none
  | .bugineseVowel => if n = 0x1A15 then some (0, .nothing) else none
  | .tifinagh =>
    if n = 0x2D7F then some (1, .of .tifinaghJoined)
    else if joiner && isTifinagh c then some (0, .nothing)
    else none
  | .tifinaghJoined => if isTifinagh c then some (-1, .nothing) else none
  | .lisuTone => if 0xA4F8 ≤ n ∧ n ≤ 0xA4FB then some (0, .nothing) else none
  | .turkicI => if joiner && n == 0x10C32 then some (0, .nothing) else none
  | .kiratE =>
    if n = 0x16D67 then some (0, .of .kiratAi)
    else if n = 0x16D68 then some (1, .of .kiratE)
    else if n = 0x16D63 ∨ n = 0x16D69 then some (0, .nothing)
    else none
  | .kiratAi => if n = 0x16D63 then some (0, .nothing) else none
  | _ => none

/-- How a character joins the parts of an emoji. -/
def joinEmoji? (c : Char) (joint : Joint) : Option (Int × Context) :=
  let n := c.toNat
  if n = 0x200D ∧ joint.takesJoiner then some (0, .of .joined)
  else
    match joint with
    | .tone => if isToneBase c then some (0, .of .picture) else none
    | .regional | .regionals => if isRegional c then some (1, .of .regionals) else none
    | .joined =>
      if n = 0x20E3 then some (0, .of .joinedKey)
      else if isRegional c then some (1, .of .joinedRegional)
      else if isTone c then some (0, .of .tone)
      else if isPicture c then some (0, .of .picture)
      else if n = 0xE007F then some (0, .of (.tagLetters 0))
      else none
    | .joinedRegional | .joinedOdd => if isRegional c then some (-1, .of .joinedFlags) else none
    | .joinedFlags => if isRegional c then some (3, .of .joinedOdd) else none
    | .tagLetters k =>
      if 0xE0061 ≤ n ∧ n ≤ 0xE007A ∧ k < 6 then some (0, .of (.tagLetters (k + 1)))
      else if 0xE0030 ≤ n ∧ n ≤ 0xE0039 ∧ k ≤ 4 then some (0, .of (.tagDigits 1))
      else if n = 0x1F3F4 ∧ 3 ≤ k then some (0, .of .picture)
      else none
    | .tagDigits k =>
      if 0xE0030 ≤ n ∧ n ≤ 0xE0039 ∧ k < 3 then some (0, .of (.tagDigits (k + 1)))
      else if n = 0x1F3F4 ∧ k = 3 then some (0, .of .picture)
      else none
    | _ => none

/-- The context without its variation selector, which the character before does not heed. -/
def Context.dropSelector (next : Context) : Context :=
  match next.selector with
  | none => next
  | some .picture => if next.joint.isScript then { next with selector := none } else .nothing
  | some .text => { next with selector := none }

/-- The columns that a character adds, and what can be joined then, if no selector is in the way. -/
def place (c : Char) (next : Context) : Int × Context :=
  let n := c.toNat
  if n ≤ 0xA0 then
    if c = '\n' then (1, .of .lineFeed)
    else if c = '\r' ∧ next.joint = .lineFeed then (0, .nothing)
    else (1, .nothing)
  else if n = 0xFE0F then
    (0, if next.joint.isScript || next.joint.isJoined then { next with selector := some .picture }
      else ⟨.nothing, false, some .picture⟩)
  else if n = 0xFE0E then
    (0, if next.joint.isScript then { next with selector := some .text }
      else ⟨.nothing, false, some .text⟩)
  else if next.joint.isScript && next.joint != .alef && n == 0x200D then
    (0, { next with joiner := true })
  else if next.joint.isScript && next.joint != .alef && isSilent c then (0, next)
  else
    match (joinScript? c next.joint next.joiner).orElse fun _ => joinEmoji? c next.joint with
    | some answer => answer
    | none => ((charColumns c : Int), .of (jointOf c))

/-- The columns that a character adds to the text after it, and what can be joined then. -/
def prepend (c : Char) (next : Context) : Int × Context :=
  match next.selector with
  | some .picture =>
    if isVariable c then (if next.joint.isJoined then 0 else 2, .of .picture)
    else place c next.dropSelector
  | some .text =>
    if c.toNat ≤ 0xA0 ∨ c.toNat = 0xFE0F ∨ c.toNat = 0xFE0E then place c next
    else if isText c then (1, .nothing)
    else place c next.dropSelector
  | none => place c next

/-- The columns of a text, and what can be joined before it. -/
def measure : List Char → Int × Context
  | [] => (0, .nothing)
  | c :: cs =>
    let (columns, next) := measure cs
    let (more, context) := prepend c next
    (columns + more, context)

def columns (cs : List Char) : Nat := (measure cs).1.toNat

end EntropyTables.Text
