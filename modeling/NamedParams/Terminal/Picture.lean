namespace NamedParams.Terminal

/-- Characters, by ranges of their codes. -/
abbrev Characters := List (Nat × Nat)

def isIn (table : Characters) (c : Char) : Bool :=
  table.any fun (first, last) => first ≤ c.toNat && c.toNat ≤ last

/-- The characters that are shown as pictures, whatever follows them. -/
def pictures : Characters :=
  [(0x231A, 0x231B), (0x23E9, 0x23EC), (0x23F0, 0x23F0), (0x23F3, 0x23F3), (0x25FD, 0x25FE),
    (0x2614, 0x2615), (0x2648, 0x2653), (0x267F, 0x267F), (0x2693, 0x2693), (0x26A1, 0x26A1),
    (0x26AA, 0x26AB), (0x26BD, 0x26BE), (0x26C4, 0x26C5), (0x26CE, 0x26CE), (0x26D4, 0x26D4),
    (0x26EA, 0x26EA), (0x26F2, 0x26F3), (0x26F5, 0x26F5), (0x26FA, 0x26FA), (0x26FD, 0x26FD),
    (0x2705, 0x2705), (0x270A, 0x270B), (0x2728, 0x2728), (0x274C, 0x274C), (0x274E, 0x274E),
    (0x2753, 0x2755), (0x2757, 0x2757), (0x2795, 0x2797), (0x27B0, 0x27B0), (0x27BF, 0x27BF),
    (0x2B1B, 0x2B1C), (0x2B50, 0x2B50), (0x2B55, 0x2B55), (0x1F004, 0x1F004), (0x1F0CF, 0x1F0CF),
    (0x1F18E, 0x1F18E), (0x1F191, 0x1F19A), (0x1F1E6, 0x1F1FF), (0x1F201, 0x1F201),
    (0x1F21A, 0x1F21A), (0x1F22F, 0x1F22F), (0x1F232, 0x1F236), (0x1F238, 0x1F23A),
    (0x1F250, 0x1F251), (0x1F300, 0x1F320), (0x1F32D, 0x1F335), (0x1F337, 0x1F37C),
    (0x1F37E, 0x1F393), (0x1F3A0, 0x1F3CA), (0x1F3CF, 0x1F3D3), (0x1F3E0, 0x1F3F0),
    (0x1F3F4, 0x1F3F4), (0x1F3F8, 0x1F43E), (0x1F440, 0x1F440), (0x1F442, 0x1F4FC),
    (0x1F4FF, 0x1F53D), (0x1F54B, 0x1F54E), (0x1F550, 0x1F567), (0x1F57A, 0x1F57A),
    (0x1F595, 0x1F596), (0x1F5A4, 0x1F5A4), (0x1F5FB, 0x1F64F), (0x1F680, 0x1F6C5),
    (0x1F6CC, 0x1F6CC), (0x1F6D0, 0x1F6D2), (0x1F6D5, 0x1F6D5), (0x1F6EB, 0x1F6EC),
    (0x1F6F4, 0x1F6FA), (0x1F7E0, 0x1F7EB), (0x1F90D, 0x1F93A), (0x1F93C, 0x1F945),
    (0x1F947, 0x1F971), (0x1F973, 0x1F976), (0x1F97A, 0x1F9A2), (0x1F9A5, 0x1F9AA),
    (0x1F9AE, 0x1F9CA), (0x1F9CD, 0x1F9FF), (0x1FA70, 0x1FA73), (0x1FA78, 0x1FA7A),
    (0x1FA80, 0x1FA82), (0x1FA90, 0x1FA95)]

/-- The characters that are shown as pictures if a selector follows them. All pictures start with
    one of these. -/
def possiblePictures : Characters :=
  [(0x23, 0x23), (0x2A, 0x2A), (0x30, 0x39), (0xA9, 0xA9), (0xAE, 0xAE), (0x203C, 0x203C),
    (0x2049, 0x2049), (0x2122, 0x2122), (0x2139, 0x2139), (0x2194, 0x2199), (0x21A9, 0x21AA),
    (0x231A, 0x231B), (0x2328, 0x2328), (0x23CF, 0x23CF), (0x23E9, 0x23F3), (0x23F8, 0x23FA),
    (0x24C2, 0x24C2), (0x25AA, 0x25AB), (0x25B6, 0x25B6), (0x25C0, 0x25C0), (0x25FB, 0x25FE),
    (0x2600, 0x2604), (0x260E, 0x260E), (0x2611, 0x2611), (0x2614, 0x2615), (0x2618, 0x2618),
    (0x261D, 0x261D), (0x2620, 0x2620), (0x2622, 0x2623), (0x2626, 0x2626), (0x262A, 0x262A),
    (0x262E, 0x262F), (0x2638, 0x263A), (0x2640, 0x2640), (0x2642, 0x2642), (0x2648, 0x2653),
    (0x265F, 0x2660), (0x2663, 0x2663), (0x2665, 0x2666), (0x2668, 0x2668), (0x267B, 0x267B),
    (0x267E, 0x267F), (0x2692, 0x2697), (0x2699, 0x2699), (0x269B, 0x269C), (0x26A0, 0x26A1),
    (0x26AA, 0x26AB), (0x26B0, 0x26B1), (0x26BD, 0x26BE), (0x26C4, 0x26C5), (0x26C8, 0x26C8),
    (0x26CE, 0x26CF), (0x26D1, 0x26D1), (0x26D3, 0x26D4), (0x26E9, 0x26EA), (0x26F0, 0x26F5),
    (0x26F7, 0x26FA), (0x26FD, 0x26FD), (0x2702, 0x2702), (0x2705, 0x2705), (0x2708, 0x270D),
    (0x270F, 0x270F), (0x2712, 0x2712), (0x2714, 0x2714), (0x2716, 0x2716), (0x271D, 0x271D),
    (0x2721, 0x2721), (0x2728, 0x2728), (0x2733, 0x2734), (0x2744, 0x2744), (0x2747, 0x2747),
    (0x274C, 0x274C), (0x274E, 0x274E), (0x2753, 0x2755), (0x2757, 0x2757), (0x2763, 0x2764),
    (0x2795, 0x2797), (0x27A1, 0x27A1), (0x27B0, 0x27B0), (0x27BF, 0x27BF), (0x2934, 0x2935),
    (0x2B05, 0x2B07), (0x2B1B, 0x2B1C), (0x2B50, 0x2B50), (0x2B55, 0x2B55), (0x3030, 0x3030),
    (0x303D, 0x303D), (0x3297, 0x3297), (0x3299, 0x3299), (0x1F004, 0x1F004), (0x1F0CF, 0x1F0CF),
    (0x1F170, 0x1F171), (0x1F17E, 0x1F17F), (0x1F18E, 0x1F18E), (0x1F191, 0x1F19A),
    (0x1F1E6, 0x1F1FF), (0x1F201, 0x1F202), (0x1F21A, 0x1F21A), (0x1F22F, 0x1F22F),
    (0x1F232, 0x1F23A), (0x1F250, 0x1F251), (0x1F300, 0x1F321), (0x1F324, 0x1F393),
    (0x1F396, 0x1F397), (0x1F399, 0x1F39B), (0x1F39E, 0x1F3F0), (0x1F3F3, 0x1F3F5),
    (0x1F3F7, 0x1F4FD), (0x1F4FF, 0x1F53D), (0x1F549, 0x1F54E), (0x1F550, 0x1F567),
    (0x1F56F, 0x1F570), (0x1F573, 0x1F57A), (0x1F587, 0x1F587), (0x1F58A, 0x1F58D),
    (0x1F590, 0x1F590), (0x1F595, 0x1F596), (0x1F5A4, 0x1F5A5), (0x1F5A8, 0x1F5A8),
    (0x1F5B1, 0x1F5B2), (0x1F5BC, 0x1F5BC), (0x1F5C2, 0x1F5C4), (0x1F5D1, 0x1F5D3),
    (0x1F5DC, 0x1F5DE), (0x1F5E1, 0x1F5E1), (0x1F5E3, 0x1F5E3), (0x1F5E8, 0x1F5E8),
    (0x1F5EF, 0x1F5EF), (0x1F5F3, 0x1F5F3), (0x1F5FA, 0x1F64F), (0x1F680, 0x1F6C5),
    (0x1F6CB, 0x1F6D2), (0x1F6D5, 0x1F6D5), (0x1F6E0, 0x1F6E5), (0x1F6E9, 0x1F6E9),
    (0x1F6EB, 0x1F6EC), (0x1F6F0, 0x1F6F0), (0x1F6F3, 0x1F6FA), (0x1F7E0, 0x1F7EB),
    (0x1F90D, 0x1F93A), (0x1F93C, 0x1F945), (0x1F947, 0x1F971), (0x1F973, 0x1F976),
    (0x1F97A, 0x1F9A2), (0x1F9A5, 0x1F9AA), (0x1F9AE, 0x1F9CA), (0x1F9CD, 0x1F9FF),
    (0x1FA70, 0x1FA73), (0x1FA78, 0x1FA7A), (0x1FA80, 0x1FA82), (0x1FA90, 0x1FA95)]

/-- The characters that are shown as pictures unless a selector follows them, with which they are
    one. -/
def lonePictures : Characters :=
  [(0x261D, 0x261D), (0x26F9, 0x26F9), (0x270C, 0x270D), (0x1F3CB, 0x1F3CC), (0x1F574, 0x1F575),
    (0x1F590, 0x1F590)]

/-- The pictures that a skin tone can follow. -/
def tonedPictures : Characters :=
  [(0x261D, 0x261D), (0x26F9, 0x26F9), (0x270A, 0x270D), (0x1F385, 0x1F385), (0x1F3C2, 0x1F3C4),
    (0x1F3C7, 0x1F3C7), (0x1F3CA, 0x1F3CC), (0x1F442, 0x1F443), (0x1F446, 0x1F450),
    (0x1F466, 0x1F469), (0x1F46B, 0x1F46E), (0x1F470, 0x1F478), (0x1F47C, 0x1F47C),
    (0x1F481, 0x1F483), (0x1F485, 0x1F487), (0x1F4AA, 0x1F4AA), (0x1F574, 0x1F575),
    (0x1F57A, 0x1F57A), (0x1F590, 0x1F590), (0x1F595, 0x1F596), (0x1F645, 0x1F647),
    (0x1F64B, 0x1F64F), (0x1F6A3, 0x1F6A3), (0x1F6B4, 0x1F6B6), (0x1F6C0, 0x1F6C0),
    (0x1F6CC, 0x1F6CC), (0x1F90F, 0x1F90F), (0x1F918, 0x1F91C), (0x1F91E, 0x1F91F),
    (0x1F926, 0x1F926), (0x1F930, 0x1F939), (0x1F93D, 0x1F93E), (0x1F9B5, 0x1F9B6),
    (0x1F9B8, 0x1F9B9), (0x1F9BB, 0x1F9BB), (0x1F9CD, 0x1F9CF), (0x1F9D1, 0x1F9DD)]

/-- The pictures of people that a sign of gender can follow, with and without a skin tone. -/
def gendered : Characters :=
  [(0x1F3C3, 0x1F3C4), (0x1F3CA, 0x1F3CA), (0x1F46E, 0x1F46E), (0x1F471, 0x1F471),
    (0x1F473, 0x1F473), (0x1F477, 0x1F477), (0x1F481, 0x1F482), (0x1F486, 0x1F487),
    (0x1F645, 0x1F647), (0x1F64B, 0x1F64B), (0x1F64D, 0x1F64E), (0x1F6A3, 0x1F6A3),
    (0x1F6B4, 0x1F6B6), (0x1F926, 0x1F926), (0x1F937, 0x1F939), (0x1F93D, 0x1F93E),
    (0x1F9B8, 0x1F9B9), (0x1F9CD, 0x1F9CF), (0x1F9D6, 0x1F9DD)]

/-- What people work with. -/
def occupations : Characters :=
  [(0x1F33E, 0x1F33E), (0x1F373, 0x1F373), (0x1F393, 0x1F393), (0x1F3A4, 0x1F3A4),
    (0x1F3A8, 0x1F3A8), (0x1F3EB, 0x1F3EB), (0x1F3ED, 0x1F3ED), (0x1F4BB, 0x1F4BC),
    (0x1F527, 0x1F527), (0x1F52C, 0x1F52C), (0x1F680, 0x1F680), (0x1F692, 0x1F692),
    (0x1F9AF, 0x1F9B3), (0x1F9BC, 0x1F9BD)]

/-- The signs of callings, which need a selector. -/
def callings : Characters := [(0x2695, 0x2696), (0x2708, 0x2708)]

/-- The second letters of the regions that have flags, by their first letters. -/
def flagLetters : List (Char × String) :=
  [('A', "CDEFGILMOQRSTUWXZ"), ('B', "ABDEFGHIJLMNOQRSTVWYZ"), ('C', "ACDFGHIKLMNOPRUVWXYZ"),
    ('D', "EGJKMOZ"), ('E', "ACEGHRSTU"), ('F', "IJKMOR"), ('G', "ABDEFGHILMNPQRSTUWY"),
    ('H', "KMNRTU"), ('I', "CDELMNOQRST"), ('J', "EMOP"), ('K', "EGHIMNPRWYZ"),
    ('L', "ABCIKRSTUVY"), ('M', "ACDEFGHKLMNOPQRSTUVWXYZ"), ('N', "ACEFGILOPRUZ"), ('O', "M"),
    ('P', "AEFGHKLMNRSTWY"), ('Q', "A"), ('R', "EOSUW"), ('S', "ABCDEGHIJKLMNORSTVXYZ"),
    ('T', "ACDFGHJKLMNORTVWZ"), ('U', "AGMNSYZ"), ('V', "ACEGINU"), ('W', "FS"), ('X', "K"),
    ('Y', "ET"), ('Z', "AMW")]

def one (code : Nat) : Characters := [(code, code)]

def selector : Characters := one 0xFE0F

def skinTones : Characters := [(0x1F3FB, 0x1F3FF)]

def man : Characters := one 0x1F468

def woman : Characters := one 0x1F469

def manOrWoman : Characters := [(0x1F468, 0x1F469)]

def person : Characters := one 0x1F9D1

def boy : Characters := one 0x1F466

def girl : Characters := one 0x1F467

def boyOrGirl : Characters := [(0x1F466, 0x1F467)]

/-- What each character of a picture of several can be. -/
abbrev Sequence := List Characters

/-- Pictures that are shown as one. -/
def joined (members : List Sequence) : Sequence :=
  [one 0x200D].intercalate members

def families : List Sequence :=
  let children : List (List Sequence) := [[[boy], [boy]], [[girl], [boyOrGirl]], [[boyOrGirl]]]
  let parents : List (List Sequence) :=
    [[[man]], [[man], [manOrWoman]], [[woman]], [[woman], [woman]]]
  parents.flatMap fun parents => children.map fun children => joined (parents ++ children)

def couples : List Sequence :=
  let heart : Sequence := [one 0x2764, selector]
  let kiss : Sequence := [one 0x1F48B]
  [(man, man), (woman, manOrWoman)].flatMap fun (first, second) =>
    [joined [[first], heart, [second]], joined [[first], heart, kiss, [second]]]

def handshake : Characters := one 0x1F91D

/-- Two people who hold hands. Only some of their skin tones, which are told apart by numbers, are
    shown together. -/
def handHolders (first second : Characters) (areShown : Nat → Nat → Bool) : List Sequence :=
  let tone (number : Nat) : Characters := one (0x1F3FB + number)
  (List.range 5).flatMap fun left => ((List.range 5).filter (areShown left)).map fun right =>
    joined [[first, tone left], [handshake], [second, tone right]]

def pairs : List Sequence :=
  joined [[person], [handshake], [person]] ::
    handHolders person person (fun left right => right ≤ left) ++
    handHolders man man (fun left right => right < left) ++
    handHolders woman woman (fun left right => right < left) ++
    handHolders woman man (fun left right => right != left)

def workers : List Sequence :=
  [[manOrWoman], [manOrWoman, skinTones]].flatMap fun worker =>
    [joined [worker, [occupations]], joined [worker, [callings, selector]]]

def genderedSequences : List Sequence :=
  let sign : Sequence := [[(0x2640, 0x2640), (0x2642, 0x2642)], selector]
  let athletes : Characters := [(0x26F9, 0x26F9), (0x1F3CB, 0x1F3CC), (0x1F575, 0x1F575)]
  let groups : Characters := [(0x1F46F, 0x1F46F), (0x1F93C, 0x1F93C), (0x1F9DE, 0x1F9DF)]
  [[gendered], [gendered, skinTones], [athletes, selector], [athletes, skinTones], [groups]].map
    fun picture => joined [picture, sign]

def flags : List Sequence :=
  let letter (c : Char) : Characters := one (0x1F1E6 + (c.toNat - 'A'.toNat))
  let tag (c : Char) : Characters := one (0xE0000 + c.toNat)
  let black := one 0x1F3F4
  let regions := flagLetters.map fun (first, seconds) =>
    [letter first, seconds.toList.flatMap letter]
  let countries := ["gbeng", "gbsct", "gbwls"].map fun name =>
    black :: name.toList.map tag ++ [one 0xE007F]
  joined [[black], [one 0x2620, selector]] ::
    joined [[one 0x1F3F3, selector], [one 0x1F308]] :: regions ++ countries

/-- The pictures of several characters, other than those of one character and a selector. -/
def sequences : List Sequence :=
  let key : Sequence := [[(0x23, 0x23), (0x2A, 0x2A), (0x30, 0x39)], selector, one 0x20E3]
  let witness := joined [[one 0x1F441, selector], [one 0x1F5E8, selector]]
  let serviceDog := joined [[one 0x1F415], [one 0x1F9BA]]
  key :: witness :: serviceDog :: [tonedPictures, skinTones] :: families ++ couples ++ pairs ++
    workers ++ genderedSequences ++ flags

/-- Whether a sequence stands at the start of a text. -/
def Sequence.opens : Sequence → List Char → Bool
  | [], _ => true
  | _ :: _, [] => false
  | first :: rest, c :: text => isIn first c && Sequence.opens rest text

/-- The characters that a picture at the start of a text takes. Of several that start there, the
    longest is shown. -/
def picture : List Char → Nat
  | [] => 0
  | c :: rest =>
    if !isIn possiblePictures c then 0
    else
      let found := sequences.filter (·.opens (c :: rest))
      let longest := found.foldl (fun length sequence => max length sequence.length) 0
      if longest ≠ 0 then longest
      else if isIn pictures c then 1
      else if rest.head?.any (isIn selector) then 2
      else if isIn lonePictures c then 1
      else 0

end NamedParams.Terminal
