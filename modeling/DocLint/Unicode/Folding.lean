import DocLint.Unicode.Runs

/-!
# Letters that differ only in case

Simple case folding maps a character to at most one other. Two characters differ only in case when they
fold to the same one. The table gives runs of characters together with how far each is from what it folds
to, upwards or downwards.
-/

namespace DocLint.Unicode

open DocLint.Text

/-- A run of characters that fold to characters at one distance. -/
structure Shift where
  /-- The characters that fold. -/
  run : Run
  /-- How far off the folded characters are. -/
  distance : Nat
  deriving DecidableEq, Repr

/-- Reads one shift: a run, a mark and a distance. -/
def Shift.read (word : List Char) : Shift :=
  let isMark : Char → Bool := fun c => c = '+' || c = '~'
  ⟨Run.read (word.takeWhile (!isMark ·)), hexFront ((word.dropWhile (!isMark ·)).drop 1)⟩

/-- Reads the lines of a table. -/
def Shift.decode (lines : List String) : List Shift :=
  lines.flatMap fun l => (words l).map Shift.read

/-- The characters that fold upwards. -/
def upwardShifts : List Shift :=
  Shift.decode [
      "41-5a+20 b5+307 c0-d6+20 d8-de+20 100-12e/2+1 132-136/2+1 139-147/2+1 14a-176/2+1",
      "179-17d/2+1 181+d2 182-184/2+1 186+ce 187+1 189-18a+cd 18b+1 18e+4f 18f+ca 190+cb",
      "191+1 193+cd 194+cf 196+d3 197+d1 198+1 19c+d3 19d+d5 19f+d6 1a0-1a4/2+1 1a6+da",
      "1a7+1 1a9+da 1ac+1 1ae+da 1af+1 1b1-1b2+d9 1b3-1b5/2+1 1b7+db 1b8+1 1bc+1 1c4+2",
      "1c5+1 1c7+2 1c8+1 1ca+2 1cb-1db/2+1 1de-1ee/2+1 1f1+2 1f2-1f4/2+1 1f8-21e/2+1",
      "222-232/2+1 23a+2a2b 23b+1 23e+2a28 241+1 244+45 245+47 246-24e/2+1 345+74",
      "370-372/2+1 376+1 37f+74 386+26 388-38a+25 38c+40 38e-38f+3f 391-3a1+20 3a3-3ab+20",
      "3c2+1 3cf+8 3d8-3ee/2+1 3f7+1 3fa+1 400-40f+50 410-42f+20 460-480/2+1 48a-4be/2+1",
      "4c0+f 4c1-4cd/2+1 4d0-52e/2+1 531-556+30 10a0-10c5+1c60 10c7+1c60 10cd+1c60",
      "1c88+89c3 1c89+1 1e00-1e94/2+1 1ea0-1efe/2+1 2132+1c 2160-216f+10 2183+1",
      "24b6-24cf+1a 2c00-2c2f+30 2c60+1 2c67-2c6b/2+1 2c72+1 2c75+1 2c80-2ce2/2+1",
      "2ceb-2ced/2+1 2cf2+1 a640-a66c/2+1 a680-a69a/2+1 a722-a72e/2+1 a732-a76e/2+1",
      "a779-a77b/2+1 a77e-a786/2+1 a78b+1 a790-a792/2+1 a796-a7a8/2+1 a7b3+3a0",
      "a7b4-a7c2/2+1 a7c7-a7c9/2+1 a7cc+1 a7d0+1 a7d6-a7da/2+1 a7f5+1 fb05+1 ff21-ff3a+20",
      "10400-10427+28 104b0-104d3+28 10570-1057a+27 1057c-1058a+27 1058c-10592+27",
      "10594-10595+27 10c80-10cb2+40 10d50-10d65+20 118a0-118bf+20 16e40-16e5f+20",
      "1e900-1e921+22"]

/-- The characters that fold downwards. -/
def downwardShifts : List Shift :=
  Shift.decode [
      "178~79 17f~10c 1f6~61 1f7~38 220~82 23d~a3 243~c3 3d0~1e 3d1~19 3d5~f 3d6~16 3f0~36",
      "3f1~30 3f4~3c 3f5~40 3f9~7 3fd-3ff~82 13f8-13fd~8 1c80~184e 1c81~184d 1c82~1844",
      "1c83-1c84~1842 1c85~1843 1c86~183c 1c87~1824 1c90-1cba~bc0 1cbd-1cbf~bc0 1e9b~3a",
      "1e9e~1dbf 1f08-1f0f~8 1f18-1f1d~8 1f28-1f2f~8 1f38-1f3f~8 1f48-1f4d~8 1f59-1f5f/2~8",
      "1f68-1f6f~8 1f88-1f8f~8 1f98-1f9f~8 1fa8-1faf~8 1fb8-1fb9~8 1fba-1fbb~4a 1fbc~9",
      "1fbe~1c05 1fc8-1fcb~56 1fcc~9 1fd3~1c43 1fd8-1fd9~8 1fda-1fdb~64 1fe3~1c33",
      "1fe8-1fe9~8 1fea-1feb~70 1fec~7 1ff8-1ff9~80 1ffa-1ffb~7e 1ffc~9 2126~1d5d 212a~20bf",
      "212b~2046 2c62~29f7 2c63~ee6 2c64~29e7 2c6d~2a1c 2c6e~29fd 2c6f~2a1f 2c70~2a1e",
      "2c7e-2c7f~2a3f a77d~8a04 a78d~a528 a7aa~a544 a7ab~a54f a7ac~a54b a7ad~a541 a7ae~a544",
      "a7b0~a512 a7b1~a52a a7b2~a515 a7c4~30 a7c5~a543 a7c6~8a38 a7cb~a567 a7dc~a641",
      "ab70-abbf~97d0"]

/-- The characters that fold, each with the one that it folds to. -/
def foldings : List (Nat × Nat) :=
  (upwardShifts.flatMap fun s => s.run.numbers.map fun n => (n, n + s.distance)) ++
    downwardShifts.flatMap fun s => s.run.numbers.map fun n => (n, n - s.distance)

/-- The characters that fold. -/
def foldSources (_ : Unit) : CharSet :=
  CharSet.ofIntervals (foldings.map fun p => ⟨p.1, p.1⟩)

/-- The characters that another one folds to. -/
def foldTargets (_ : Unit) : CharSet :=
  CharSet.ofIntervals (foldings.map fun p => ⟨p.2, p.2⟩)

/-- Adds the characters that differ in case only from one of a set. -/
def closeCase (s : CharSet) : CharSet :=
  let reached := CharSet.ofIntervals <| foldings.filterMap fun p =>
    if s.holds p.1 || s.holds p.2 then some ⟨p.2, p.2⟩ else none
  let folding := CharSet.ofIntervals <| foldings.filterMap fun p =>
    if reached.holds p.2 then some ⟨p.1, p.1⟩ else none
  (s.union reached).union folding

/-- Adds the ASCII letters that differ in case only from one of a set. -/
def closeAsciiCase (s : CharSet) : CharSet :=
  let shifted (low high : Nat) (move : Nat → Nat) : CharSet :=
    CharSet.ofIntervals ((s.inter (CharSet.span low high)).intervals.map fun i =>
      ⟨move i.low, move i.high⟩)
  (s.union (shifted 0x41 0x5A (· + 32))).union (shifted 0x61 0x7A (· - 32))

end DocLint.Unicode
