import Siblings.Text.Basic
import Siblings.Text.Columns
import Siblings.Text.Emoji

/-!
# Width on a terminal

Characters that are drawn together take fewer columns than they would by themselves: the parts of
an emoji, and letters that make one shape. A text is measured from its end, since what stands
behind a character decides how it is drawn.

* `Text.columns`: the columns of a character in front of what stands behind it.
* `Text.width`: the columns of a text.
-/

namespace Siblings.Text

/-- **A letter that makes one shape with the letters before it.** Some need a joiner between
them. -/
inductive Joint where
  /-- The Hebrew letter that follows an alef. -/
  | lamed
  /-- The Buginese letter that follows a vowel sign and its consonant. -/
  | ya
  /-- The Buginese vowel sign in front of such a letter. -/
  | yaVowel
  /-- A Tifinagh consonant. -/
  | tifinagh
  /-- The joiner of Tifinagh in front of a consonant. -/
  | tifinaghJoiner
  /-- A Lisu tone letter that follows another one. -/
  | tone
  /-- The Old Turkic letter that follows a consonant. -/
  | vowelI
  /-- A Khmer letter that may be written below another one. -/
  | subscript
  deriving DecidableEq, Repr

/-- How an emoji is drawn. -/
inductive Style where
  | text
  | picture
  deriving DecidableEq, Repr

/-- **What stands behind a character,** as far as it bears on the columns that it takes. -/
inductive Behind where
  /-- Nothing of note. -/
  | plain
  /-- A selector of a style, and what stands behind it. -/
  | selector (style : Style) (behind : Behind)
  /-- The selector of wide quotation marks. -/
  | wideQuote
  /-- A letter that makes one shape, maybe behind a joiner. -/
  | joint (letter : Joint) (joined : Bool)
  /-- The Arabic letter that makes one shape with a lam. -/
  | alef
  /-- A sign of Kirat Rai that may be part of a longer one. -/
  | vowelE
  /-- A sign of Kirat Rai that may be part of a longer one, as two parts or one. -/
  | vowelAi
  /-- A picture. -/
  | picture
  /-- The colour of a skin. -/
  | skin
  /-- A joiner in front of a picture, maybe behind the frame of a key. -/
  | link (framed : Bool)
  /-- Letters of flags, maybe in front of such a joiner. -/
  | flags (linked : Bool) (letters : Nat)
  /-- Tags in front of such a joiner that name a region: letters behind digits. -/
  | tags (letters digits : Nat)
  deriving DecidableEq, Repr

namespace Behind

/-- Whether it is a letter, maybe behind selectors. -/
def isLetter : Behind → Bool
  | joint _ _ => true
  | alef => true
  | selector _ behind => behind.isLetter
  | _ => false

/-- Whether it is a joiner in front of a picture. -/
def isLink : Behind → Bool
  | link _ => true
  | _ => false

/-- What stands behind a selector of a text: a letter counts still. -/
def pastText (behind : Behind) : Behind := if behind.isLetter then behind else plain

/-- What stands behind a selector of a picture: a letter or a joiner counts still. -/
def pastPicture (behind : Behind) : Behind :=
  if behind.isLetter || behind.isLink then behind else plain

end Behind

/-- An Arabic alef. -/
def isAlef (c : Char) : Bool :=
  inRanges [(0x622, 0x623), (0x625, 0x625), (0x627, 0x627), (0x671, 0x673), (0x675, 0x675),
    (0x773, 0x774), (0x870, 0x882)] c

/-- An Arabic lam. -/
def isLam (c : Char) : Bool :=
  inRanges [(0x644, 0x644), (0x6B5, 0x6B8), (0x76A, 0x76A), (0x8A6, 0x8A6), (0x8C7, 0x8C7)] c

/-- A Khmer letter that may be written below another one. -/
def isSubscript (c : Char) : Bool :=
  inRanges [(0x1780, 0x1782), (0x1784, 0x1787), (0x1789, 0x178C), (0x178E, 0x1793),
    (0x1795, 0x1798), (0x179B, 0x179D), (0x17A0, 0x17A0), (0x17A2, 0x17A2), (0x17A7, 0x17A7),
    (0x17AB, 0x17AC), (0x17AF, 0x17AF)] c

/-- A Tifinagh consonant. -/
def isTifinagh (c : Char) : Bool := inRanges [(0x2D31, 0x2D65), (0x2D6F, 0x2D6F)] c

/-- A mark that is not shown. Letters make one shape across it. -/
def isBlankMark (c : Char) : Bool :=
  inRanges [(0x34F, 0x34F), (0x17B4, 0x17B5), (0x180B, 0x180D), (0x180F, 0x180F),
    (0xFE00, 0xFE0F), (0xE0100, 0xE01EF)] c

/-- Characters without a column across which Arabic letters make no shape. -/
def apartRanges : List (Nat × Nat) :=
  [(0x605, 0x605), (0x890, 0x891), (0x8E2, 0x8E2), (0x9BE, 0x9BE), (0x9D7, 0x9D7), (0xB3E, 0xB3E),
   (0xB57, 0xB57), (0xBBE, 0xBBE), (0xBD7, 0xBD7), (0xCC0, 0xCC0), (0xCC2, 0xCC2), (0xCC7, 0xCC8),
   (0xCCA, 0xCCB), (0xCD5, 0xCD6), (0xD3E, 0xD3E), (0xD4E, 0xD4E), (0xD57, 0xD57), (0xDCF, 0xDCF),
   (0xDDF, 0xDDF), (0x1160, 0x11FF), (0x1715, 0x1715), (0x1734, 0x1734), (0x180E, 0x180E),
   (0x1B35, 0x1B35), (0x1B3B, 0x1B3B), (0x1B3D, 0x1B3D), (0x1B43, 0x1B44), (0x1BAA, 0x1BAA),
   (0x1BF2, 0x1BF3), (0x200C, 0x200D), (0x2065, 0x2069), (0x302E, 0x302F), (0x3164, 0x3164),
   (0xA8FA, 0xA8FA), (0xA953, 0xA953), (0xA9C0, 0xA9C0), (0xD7B0, 0xD7C6), (0xD7CB, 0xD7FB),
   (0xFFA0, 0xFFA0), (0xFFF0, 0xFFF8), (0x111C0, 0x111C0), (0x111C2, 0x111C3), (0x11235, 0x11235),
   (0x1133E, 0x1133E), (0x1134D, 0x1134D), (0x11357, 0x11357), (0x113B8, 0x113B8),
   (0x113C2, 0x113C2), (0x113C5, 0x113C5), (0x113C7, 0x113C9), (0x113CF, 0x113CF),
   (0x113D1, 0x113D1), (0x114B0, 0x114B0), (0x114BD, 0x114BD), (0x115AF, 0x115AF),
   (0x116B6, 0x116B6), (0x11930, 0x11930), (0x1193D, 0x1193D), (0x1193F, 0x1193F),
   (0x11941, 0x11941), (0x11A84, 0x11A89), (0x11D46, 0x11D46), (0x11F02, 0x11F02),
   (0x11F41, 0x11F41), (0x16FF0, 0x16FF1), (0x1D165, 0x1D166), (0x1D16D, 0x1D172),
   (0xE0000, 0xE0000), (0xE0002, 0xE001F), (0xE0080, 0xE00FF), (0xE01F0, 0xE0FFF)]

/-- A character across which Arabic letters make one shape. -/
def isTransparent (c : Char) : Bool := charWidth c == 0 && !inRanges apartRanges c

/-- What a character is for the one before it. -/
def Behind.ofChar (c : Char) : Behind :=
  if c.toNat ≤ 0xA0 then plain
  else if c == '\uFE0E' then selector .text plain
  else if c == '\uFE0F' then selector .picture plain
  else if c == '\uFE01' then wideQuote
  else if c == '\u05DC' then joint .lamed false
  else if isAlef c then alef
  else if isSubscript c then joint .subscript false
  else if c == '\u1A10' then joint .ya false
  else if isTifinagh c then joint .tifinagh false
  else if c == '\uA4FC' || c == '\uA4FD' then joint .tone false
  else if c.toNat == 0x10C03 then joint .vowelI false
  else if c.toNat == 0x16D67 then vowelE
  else if c.toNat == 0x16D68 then vowelAi
  else if isFlagLetter c then flags false 1
  else if isSkin c then skin
  else if isPicture c then picture
  else plain

/-- A character that stands by itself, and what it is for the one before it. -/
def alone (c : Char) : Int × Behind := (charWidth c, .ofChar c)

/-- The zero width joiner. -/
def joiner : Char := '\u200D'

/-- Whether a character makes one shape with the letter behind it. -/
def shape (c : Char) : Joint → Bool → Option (Int × Behind)
  | .lamed, true => if c == '\u05D0' then some (0, .plain) else none
  | .subscript, _ => if c == '\u17D2' then some (-1, .plain) else none
  | .ya, true => if c == '\u1A17' then some (0, .joint .yaVowel true) else none
  | .yaVowel, _ => if c == '\u1A15' then some (0, .plain) else none
  | .tifinagh, joined =>
    if c == '\u2D7F' then some (1, .joint .tifinaghJoiner true)
    else if joined && isTifinagh c then some (0, .plain)
    else none
  | .tifinaghJoiner, _ => if isTifinagh c then some (-1, .plain) else none
  | .tone, _ => if '\uA4F8' ≤ c && c ≤ '\uA4FB' then some (0, .plain) else none
  | .vowelI, true => if c.toNat == 0x10C32 then some (0, .plain) else none
  | _, false => none

/-- A character in front of a joiner in front of a picture. -/
def linked (c : Char) : Option (Int × Behind) :=
  if c == '\u20E3' then some (0, .link true)
  else if isFlagLetter c then some (1, .flags true 1)
  else if isSkin c then some (0, .skin)
  else if c.toNat == 0xE007F then some (0, .tags 0 0)
  else if isPicture c then some (0, .picture)
  else none

/-- A character in front of the tags of a region, whose flag is a black one. -/
def tagged (c : Char) (letters digits : Nat) : Option (Int × Behind) :=
  if 0xE0061 ≤ c.toNat && c.toNat ≤ 0xE007A && digits == 0 && letters < 6 then
    some (0, .tags (letters + 1) 0)
  else if 0xE0030 ≤ c.toNat && c.toNat ≤ 0xE0039 &&
      (if digits == 0 then letters ≤ 4 else digits < 3) then
    some (0, .tags letters (digits + 1))
  else if c.toNat == 0x1F3F4 && (if digits == 0 then 3 ≤ letters else digits == 3) then
    some (0, .picture)
  else none

/-- A character that is drawn together with what stands behind it. Letters of flags in front of a
joiner are paired from the left, so each further one shifts the pairs. -/
def together (c : Char) : Behind → Option (Int × Behind)
  | .wideQuote =>
    if c == '\u2018' || c == '\u2019' || c == '\u201C' || c == '\u201D' then some (2, .plain)
    else none
  | .joint letter joined =>
    if c == joiner then some (0, .joint letter true)
    else if isBlankMark c then some (0, .joint letter joined)
    else shape c letter joined
  | .alef =>
    if isLam c then some (0, .plain) else if isTransparent c then some (0, .alef) else none
  | .vowelE =>
    if c.toNat == 0x16D63 || c.toNat == 0x16D69 then some (0, .plain)
    else if c.toNat == 0x16D67 then some (0, .vowelAi)
    else if c.toNat == 0x16D68 then some (1, .vowelE)
    else none
  | .vowelAi => if c.toNat == 0x16D63 then some (0, .plain) else none
  | .picture => if c == joiner then some (0, .link false) else none
  | .skin =>
    if takesSkin c then some (0, .picture)
    else if c == joiner then some (0, .link false)
    else none
  | .link false => linked c
  | .flags linked letters =>
    if isFlagLetter c then
      some (if linked then if letters % 2 == 0 then 3 else -1 else 1, .flags linked (letters + 1))
    else if c == joiner && 2 ≤ letters then some (0, .link false)
    else none
  | .tags letters digits => tagged c letters digits
  | _ => none

/-- **The columns of a character in front of what stands behind it,** and what it is for the one
before it. The columns are counted back where the ones behind have been counted apart. -/
def columns (c : Char) : Behind → Int × Behind
  | .plain => alone c
  | .selector .picture behind =>
    if isStyled c then (if behind.isLink then 0 else 2, .picture)
    else if behind.isLetter then columns c behind
    else alone c
  | .selector .text behind =>
    if c == '\uFE0F' then (0, .selector .picture (Behind.selector .text behind).pastPicture)
    else if c == '\uFE0E' then (0, .selector .text behind)
    else if isTextStyled c then (1, .plain)
    else if behind.isLetter then columns c behind
    else alone c
  | behind =>
    if c == '\uFE0F' then (0, .selector .picture behind.pastPicture)
    else if c == '\uFE0E' then (0, .selector .text behind.pastText)
    else (together c behind).getD (alone c)

/-- The columns of a text, and what it is for the character before it. -/
def measure (text : Text) : Int × Behind :=
  text.foldr
    (fun c (total, behind) =>
      let (own, behind) := columns c behind
      (own + total, behind))
    (0, .plain)

/-- **The columns that a text takes.** -/
def width (text : Text) : Nat := (measure text).1.toNat

end Siblings.Text
