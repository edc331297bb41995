set_option autoImplicit false

namespace SceneFormula

/-- The words of a generator's state, and how many of them have been given out. -/
structure Generator where
  words : Array UInt32
  position : Nat

namespace Generator

def size : Nat := 624

def wordAt (words : Array UInt32) (i : Nat) : UInt32 := words.getD i 0

def mix (factor word : UInt32) : UInt32 := (word ^^^ (word >>> 30)) * factor

def ofWord (seed : UInt32) : Array UInt32 :=
  (List.range (size - 1)).foldl
    (fun words i => words.push (mix 1812433253 (wordAt words i) + UInt32.ofNat (i + 1))) #[seed]

/-- The place after a place of a state; the first place is passed over, and takes the last word
when a round ends. -/
def advance (words : Array UInt32) (i : Nat) : Array UInt32 × Nat :=
  if i + 1 < size then (words, i + 1) else (words.setIfInBounds 0 (wordAt words (size - 1)), 1)

def stirKey (key : Array UInt32) :
    Nat → Nat → Nat → Array UInt32 → Array UInt32 × Nat
  | 0, i, _, words => (words, i)
  | count + 1, i, j, words =>
    let word :=
      (wordAt words i ^^^ mix 1664525 (wordAt words (i - 1))) + wordAt key j + UInt32.ofNat j
    let (words, next) := advance (words.setIfInBounds i word) i
    stirKey key count next (if j + 1 < key.size then j + 1 else 0) words

def stirAgain : Nat → Nat → Array UInt32 → Array UInt32
  | 0, _, words => words
  | count + 1, i, words =>
    let word := (wordAt words i ^^^ mix 1566083941 (wordAt words (i - 1))) - UInt32.ofNat i
    let (words, next) := advance (words.setIfInBounds i word) i
    stirAgain count next words

/-- The words of a natural number, the lowest first; zero has one. -/
def wordsOf (n : Nat) : Array UInt32 :=
  let count := max 1 ((n.log2 + 32) / 32)
  ((List.range count).map fun i => UInt32.ofNat (n >>> (32 * i))).toArray

/-- The generator that a seed determines. The sign of the seed does not count. -/
def ofSeed (seed : Int) : Generator :=
  let key := wordsOf seed.natAbs
  let (words, i) := stirKey key (max size key.size) 1 0 (ofWord 19650218)
  ⟨(stirAgain (size - 1) i words).setIfInBounds 0 0x80000000, size⟩

def renew (words : Array UInt32) : Array UInt32 :=
  (List.range size).foldl
    (fun words i =>
      let joined :=
        (wordAt words i &&& 0x80000000) ||| (wordAt words ((i + 1) % size) &&& 0x7fffffff)
      let turned := if joined &&& 1 = 0 then joined >>> 1 else (joined >>> 1) ^^^ 0x9908b0df
      words.setIfInBounds i (wordAt words ((i + 397) % size) ^^^ turned))
    words

def temper (word : UInt32) : UInt32 :=
  let word := word ^^^ (word >>> 11)
  let word := word ^^^ ((word <<< 7) &&& 0x9d2c5680)
  let word := word ^^^ ((word <<< 15) &&& 0xefc60000)
  word ^^^ (word >>> 18)

def next (generator : Generator) : UInt32 × Generator :=
  if generator.position < size then
    (temper (wordAt generator.words generator.position),
      { generator with position := generator.position + 1 })
  else
    let words := renew generator.words
    (temper (wordAt words 0), ⟨words, 1⟩)

/-- The next random bits as a number, the lowest word first. Of the last word the high bits
count. -/
def bits (count : Nat) (generator : Generator) : Nat × Generator :=
  let (word, after) := generator.next
  if count ≤ 32 then (word.toNat >>> (32 - count), after)
  else
    let (rest, last) := bits (count - 32) after
    (word.toNat + rest <<< 32, last)
termination_by count

/-- A random number below a positive bound: as many bits as the bound has, drawn again while they
are not below it. Each draw succeeds with an even chance at least, so the limit on draws is out
of reach. -/
def drawBelow (bound : Nat) : Nat → Generator → Nat × Generator
  | 0, generator => (0, generator)
  | draws + 1, generator =>
    let (value, after) := generator.bits (bound.log2 + 1)
    if value < bound then (value, after) else drawBelow bound draws after

def upTo (limit : Nat) (generator : Generator) : Nat × Generator :=
  generator.drawBelow (limit + 1) 1000

theorem upTo_le (limit : Nat) (generator : Generator) : (generator.upTo limit).1 ≤ limit := by
  have below (draws : Nat) (g : Generator) : (drawBelow (limit + 1) draws g).1 ≤ limit := by
    induction draws generalizing g with
    | zero => simp [drawBelow]
    | succ draws ih =>
      simp only [drawBelow]
      split
      · omega
      · exact ih _
  exact below 1000 generator

end Generator
end SceneFormula
