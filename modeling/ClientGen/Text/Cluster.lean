import ClientGen.Text.Composition
import ClientGen.Text.Property.Mark
import ClientGen.Text.Spans

namespace ClientGen.Text

namespace Cluster

def controls : Spans := [
  (0x0, 0x1F, 1), (0x7F, 0x9F, 1), (0xAD, 0xAD, 1), (0x61C, 0x61C, 1), (0x180E, 0x180E, 1),
  (0x200B, 0x200B, 1), (0x200E, 0x200F, 1), (0x2028, 0x202E, 1), (0x2060, 0x206F, 1),
  (0xFEFF, 0xFEFF, 1), (0xFFF0, 0xFFFB, 1), (0x1BCA0, 0x1BCA3, 1), (0x1D173, 0x1D17A, 1),
  (0xE0000, 0xE001F, 1), (0xE0080, 0xE00FF, 1), (0xE01F0, 0xE0FFF, 1)]

def prepended : Spans := [
  (0x600, 0x605, 1), (0x6DD, 0x6DD, 1), (0x70F, 0x70F, 1), (0x8E2, 0x8E2, 1), (0xD4E, 0xD4E, 1),
  (0x110BD, 0x110BD, 1), (0x111C2, 0x111C3, 1), (0x11A3A, 0x11A3A, 1), (0x11A86, 0x11A89, 1),
  (0x11D46, 0x11D46, 1)]

def detached : Spans := [
  (0x102B, 0x102C, 1), (0x1038, 0x1038, 1), (0x1062, 0x1064, 1), (0x1067, 0x106D, 1),
  (0x1083, 0x1083, 1), (0x1087, 0x108C, 1), (0x108F, 0x108F, 1), (0x109A, 0x109C, 1),
  (0x1A61, 0x1A61, 1), (0x1A63, 0x1A64, 1), (0xAA7B, 0xAA7B, 1), (0xAA7D, 0xAA7D, 1),
  (0x11720, 0x11721, 1)]

def attached : Spans := [
  (0xE33, 0xE33, 1), (0xEB3, 0xEB3, 1), (0x200C, 0x200D, 1), (0xFF9E, 0xFF9F, 1),
  (0xE0020, 0xE007F, 1)]

def people : Spans := [
  (0x261D, 0x261D, 1), (0x26F9, 0x26F9, 1), (0x270A, 0x270D, 1), (0x1F385, 0x1F385, 1),
  (0x1F3C2, 0x1F3C4, 1), (0x1F3C7, 0x1F3C7, 1), (0x1F3CA, 0x1F3CC, 1), (0x1F442, 0x1F443, 1),
  (0x1F446, 0x1F450, 1), (0x1F466, 0x1F469, 1), (0x1F46E, 0x1F46E, 1), (0x1F470, 0x1F478, 1),
  (0x1F47C, 0x1F47C, 1), (0x1F481, 0x1F483, 1), (0x1F485, 0x1F487, 1), (0x1F4AA, 0x1F4AA, 1),
  (0x1F574, 0x1F575, 1), (0x1F57A, 0x1F57A, 1), (0x1F590, 0x1F590, 1), (0x1F595, 0x1F596, 1),
  (0x1F645, 0x1F647, 1), (0x1F64B, 0x1F64F, 1), (0x1F6A3, 0x1F6A3, 1), (0x1F6B4, 0x1F6B6, 1),
  (0x1F6C0, 0x1F6C0, 1), (0x1F6CC, 0x1F6CC, 1), (0x1F918, 0x1F91C, 1), (0x1F91E, 0x1F91F, 1),
  (0x1F926, 0x1F926, 1), (0x1F930, 0x1F939, 1), (0x1F93D, 0x1F93E, 1), (0x1F9D1, 0x1F9DD, 1)]

def skinModifiers : Spans := [(0x1F3FB, 0x1F3FF, 1)]

def joined : Spans := [
  (0x2640, 0x2642, 2), (0x2695, 0x2696, 1), (0x2708, 0x2708, 1), (0x2764, 0x2764, 1),
  (0x1F308, 0x1F308, 1), (0x1F33E, 0x1F33E, 1), (0x1F373, 0x1F373, 1), (0x1F393, 0x1F393, 1),
  (0x1F3A4, 0x1F3A4, 1), (0x1F3A8, 0x1F3A8, 1), (0x1F3EB, 0x1F3ED, 2), (0x1F466, 0x1F469, 1),
  (0x1F48B, 0x1F48B, 1), (0x1F4BB, 0x1F4BC, 1), (0x1F527, 0x1F527, 1), (0x1F52C, 0x1F52C, 1),
  (0x1F5E8, 0x1F5E8, 1), (0x1F680, 0x1F680, 1), (0x1F692, 0x1F692, 1)]

def flagLetters : Spans := [(0x1F1E6, 0x1F1FF, 1)]

def leads : Spans := [(0x1100, 0x115F, 1), (0xA960, 0xA97C, 1)]

def vowels : Spans := [(0x1160, 0x11A7, 1), (0xD7B0, 0xD7C6, 1)]

def tails : Spans := [(0x11A8, 0x11FF, 1), (0xD7CB, 0xD7FB, 1)]

def isIn (spans : Spans) (c : Char) : Bool := spans.contains c.toNat

def isMark (c : Char) : Bool := isIn Property.nonspacingMark c || isIn Property.spacingMark c

def isAttached (c : Char) : Bool := (isMark c && !isIn detached c) || isIn attached c

def isSyllable (c : Char) : Bool := (Hangul.parts? c.toNat).isSome

def isOpen (c : Char) : Bool := isSyllable c && (c.toNat - Hangul.firstSyllable) % 28 == 0

def spellsSyllable (a b : Char) : Bool :=
  (isIn leads a && (isIn leads b || isIn vowels b || isSyllable b)) ||
    ((isIn vowels a || isOpen a) && (isIn vowels b || isIn tails b)) ||
    ((isIn tails a || isSyllable a) && isIn tails b)

-- Whether a character goes on with a cluster, of which the characters are given last first. Letters of
-- flags come in pairs.
def goesOn (before : List Char) (c : Char) : Bool :=
  match before with
  | [] => true
  | last :: _ =>
    if last == '\r' && c == '\n' then true
    else if isIn controls last || isIn controls c then false
    else
      isAttached c || isIn prepended last || spellsSyllable last c ||
        (isIn flagLetters c && (before.takeWhile (isIn flagLetters)).length % 2 == 1) ||
        (isIn skinModifiers c &&
          (before.dropWhile (isIn Property.nonspacingMark)).head?.any (isIn people)) ||
        (isIn joined c && last.toNat == 0x200D)

end Cluster

def clustersFrom (before : List Char) : List Char → List (List Char)
  | [] => if before.isEmpty then [] else [before.reverse]
  | c :: rest =>
    if Cluster.goesOn before c then clustersFrom (c :: before) rest
    else before.reverse :: clustersFrom [c] rest

def clusters (cs : List Char) : List (List Char) := clustersFrom [] cs

end ClientGen.Text
