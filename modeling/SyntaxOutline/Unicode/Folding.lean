import SyntaxOutline.Text.CharSet

/-!
# Letters that differ in case only

Characters are of one family if they differ in case only, as of version 16 of the standard. A
family is listed by its first member with each of the others.

* `Folding.close` : a set with all the families of its members.
-/

namespace SyntaxOutline.Unicode.Folding

/-- The table of the families: the first members, and after `+` how far behind another member is. -/
def table : String :=
  "100-12e/2+1 132-136/2+1 139-147/2+1 14a-176/2+1 179-17d/2+1 182-184/2+1 187+1 18b+1
    191+1 198+1 1a0-1a4/2+1 1a7+1 1ac+1 1af+1 1b3-1b5/2+1 1b8+1 1bc+1 1c4+1 1c7+1 1ca+1
    1cd-1db/2+1 1de-1ee/2+1 1f1+1 1f4+1 1f8-21e/2+1 222-232/2+1 23b+1 241+1 246-24e/2+1
    370-372/2+1 376+1 3d8-3ee/2+1 3f7+1 3fa+1 460-480/2+1 48a-4be/2+1 4c1-4cd/2+1
    4d0-52e/2+1 1c89+1 1e00-1e94/2+1 1ea0-1efe/2+1 2183+1 2c60+1 2c67-2c6b/2+1 2c72+1 2c75+1
    2c80-2ce2/2+1 2ceb-2ced/2+1 2cf2+1 a640-a648/2+1 a64c-a66c/2+1 a680-a69a/2+1
    a722-a72e/2+1 a732-a76e/2+1 a779-a77b/2+1 a77e-a786/2+1 a78b+1 a790-a792/2+1
    a796-a7a8/2+1 a7b4-a7c2/2+1 a7c7-a7c9/2+1 a7cc+1 a7d0+1 a7d6-a7da/2+1 a7f5+1 fb05+1
    1c4+2 1c7+2 1ca+2 1f1+2 3f2+7 1fe5+7 3cf+8 13f0-13f5+8 1f00-1f07+8 1f10-1f15+8
    1f20-1f27+8 1f30-1f37+8 1f40-1f45+8 1f51-1f57/2+8 1f60-1f67+8 1f80-1f87+8 1f90-1f97+8
    1fa0-1fa7+8 1fb0-1fb1+8 1fd0-1fd1+8 1fe0-1fe1+8 1fb3+9 1fc3+9 1ff3+9 4c0+f 2160-216f+10
    24b6-24cf+1a 2132+1c 3a3+1f 41-5a+20 c0-d6+20 d8-de+20 391-398+20 39a-39b+20 39d-3a1+20
    3a3-3ab+20 410-42f+20 ff21-ff3a+20 10d50-10d65+20 118a0-118bf+20 16e40-16e5f+20
    1e900-1e921+22 388-38a+25 386+26 10570-1057a+27 1057c-1058a+27 1058c-10592+27
    10594-10595+27 10400-10427+28 104b0-104d3+28 3a6+2f 531-556+30 2c00-2c2f+30 a794+30
    3a0+36 1bf+38 398+39 1e60+3b 392+3e 38e-38f+3f 38c+40 10c80-10cb2+40 244+45 245+47
    1f70-1f71+4a 18e+4f 3a1+50 400-40f+50 345+54 39a+56 1f72-1f75+56 398+5c 395+60 195+61
    1f76-1f77+64 1f7a-1f7b+70 345+74 37f+74 ff+79 1f7c-1f7d+7e 1f78-1f79+80 19e+82
    37b-37d+82 19a+a3 180+c3 18f+ca 190+cb 189-18a+cd 193+cd 186+ce 194+cf 197+d1 181+d2
    196+d3 19c+d3 19d+d5 19f+d6 1b1-1b2+d9 1a6+da 1a9+da 1ae+da 1b7+db 53+12c b5+2e7 b5+307
    a7b3+3a0 10d0-10fa+bc0 10fd-10ff+bc0 1d7d+ee6 462+1825 42a+185c 421-422+1862 422+1863
    41e+1864 414+186d 412+186e 3b0+1c33 390+1c43 10a0-10c5+1c60 10c7+1c60 10cd+1c60 345+1c79
    3a9+1d7d df+1dbf c5+2066 4b+20df 27d+29e7 26b+29f7 271+29fd 251+2a1c 252+2a1e 250+2a1f
    23e+2a28 23a+2a2b 23f-240+2a3f 1c88+89c2 1c88+89c3 1d79+8a04 1d8e+8a38 13a0-13ef+97d0
    29e+a512 29d+a515 265+a528 287+a52a 26c+a541 282+a543 266+a544 26a+a544 261+a54b
    25c+a54f 264+a567 19b+a641"

/-- The pairs of one item of the table. -/
def pairsOf (item : String) : List (Nat × Nat) :=
  match item.splitOn "+" with
  | [firsts, shift] =>
    (CharSet.item firsts).flatMap fun (a, b) =>
      (List.range (b + 1 - a)).map fun i => (a + i, a + i + CharSet.number shift)
  | _ => []

/-- The first member of each family with each of the others. -/
def pairs : List (Nat × Nat) := (Text.words table).flatMap pairsOf

def hasNumber (s : CharSet) (n : Nat) : Bool :=
  s.ranges.any fun (first, last) => first ≤ n && n ≤ last

/-- The set with all the families of its members. -/
def close (s : CharSet) : CharSet :=
  let firsts := CharSet.ofRanges
    ((pairs.filter fun (a, b) => hasNumber s a || hasNumber s b).map fun (a, _) => (a, a))
  let members := (pairs.filter fun (a, _) => hasNumber firsts a).flatMap fun (a, b) =>
    [(a, a), (b, b)]
  CharSet.ofRanges (s.ranges ++ members)

/-- The set with both cases of the letters from `a` to `z` that it has. -/
def closeAscii (s : CharSet) : CharSet :=
  let members := (List.range 26).flatMap fun i =>
    if hasNumber s (0x41 + i) || hasNumber s (0x61 + i) then
      [(0x41 + i, 0x41 + i), (0x61 + i, 0x61 + i)]
    else []
  CharSet.ofRanges (s.ranges ++ members)

end SyntaxOutline.Unicode.Folding
