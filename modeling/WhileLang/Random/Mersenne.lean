/-!
# The Mersenne twister

The generator MT19937: a table of 624 words of 32 bits that is renewed as a whole, each new word
being tempered before it is given out. `ofSeed` fills the table from an integer of any size; its
sign does not matter.
-/

namespace WhileLang.Random

/-- The number of words of the table. -/
def tableSize : Nat := 624

/-- How far ahead of a word the one lies that it is mixed with. -/
def tableShift : Nat := 397

/-- The table, and how many of its words have been given out. -/
structure Mersenne where
  table : Array UInt32
  used : Nat

namespace Mersenne

/-- The word at a place; the places are used within the table only. -/
def word (table : Array UInt32) (i : Nat) : UInt32 := table.getD i 0

/-- Spreads a word over the one that follows it when a table is filled. -/
def spread (w : UInt32) : UInt32 := w ^^^ (w >>> 30)

/-- The table filled from one word. -/
def fill (seed : UInt32) : Array UInt32 :=
  (List.range (tableSize - 1)).foldl
    (fun t i => t.push (1812433253 * spread (word t i) + UInt32.ofNat (i + 1))) #[seed]

/-- Goes on to the next place of a table, which is a ring whose place `0` repeats the last one. -/
def wrap (table : Array UInt32) (i : Nat) : Array UInt32 × Nat :=
  if i + 1 < tableSize then (table, i + 1)
  else (table.setIfInBounds 0 (word table (tableSize - 1)), 1)

/-- Mixes the words of a key into a table, each together with its place in the key. -/
def mixKey (key : Array UInt32) (table : Array UInt32) (i : Nat) : Array UInt32 × Nat :=
  (List.range (max tableSize key.size)).foldl
    (fun (t, i) n =>
      let j := n % key.size
      let w := (word t i ^^^ (spread (word t (i - 1)) * 1664525)) + word key j + UInt32.ofNat j
      wrap (t.setIfInBounds i w) i)
    (table, i)

/-- Mixes the places into a table. -/
def mixPlaces (table : Array UInt32) (i : Nat) : Array UInt32 × Nat :=
  (List.range (tableSize - 1)).foldl
    (fun (t, i) _ =>
      let w := (word t i ^^^ (spread (word t (i - 1)) * 1566083941)) - UInt32.ofNat i
      wrap (t.setIfInBounds i w) i)
    (table, i)

/-- The table filled from the words of a key. -/
def fillKey (key : Array UInt32) : Array UInt32 :=
  let (t, i) := mixKey key (fill 19650218) 1
  (mixPlaces t i).1.setIfInBounds 0 0x80000000

/-- The words of a natural number, the least significant first; `0` has one word. -/
def words (n : Nat) : List UInt32 :=
  if n < 1 <<< 32 then [UInt32.ofNat n] else UInt32.ofNat (n % (1 <<< 32)) :: words (n >>> 32)

/-- The generator for a seed. -/
def ofSeed (seed : Int) : Mersenne := ⟨fillKey (words seed.natAbs).toArray, tableSize⟩

/-- The successor of a word, from the top bit of `high`, the other bits of `low`, and `far`. -/
def twist (high low far : UInt32) : UInt32 :=
  let y := (high &&& 0x80000000) ||| (low &&& 0x7FFFFFFF)
  far ^^^ (y >>> 1) ^^^ (if y &&& 1 = 0 then 0 else 0x9908B0DF)

/-- Renews all words, in order. -/
def renew (table : Array UInt32) : Array UInt32 :=
  (List.range tableSize).foldl
    (fun t i =>
      t.setIfInBounds i
        (twist (word t i) (word t ((i + 1) % tableSize)) (word t ((i + tableShift) % tableSize))))
    table

/-- Tempers a word before it is given out. -/
def temper (w : UInt32) : UInt32 :=
  let w := w ^^^ (w >>> 11)
  let w := w ^^^ ((w <<< 7) &&& 0x9D2C5680)
  let w := w ^^^ ((w <<< 15) &&& 0xEFC60000)
  w ^^^ (w >>> 18)

/-- The next word. -/
def next (g : Mersenne) : UInt32 × Mersenne :=
  let g := if g.used < tableSize then g else ⟨renew g.table, 0⟩
  (temper (word g.table g.used), ⟨g.table, g.used + 1⟩)

end Mersenne

end WhileLang.Random
