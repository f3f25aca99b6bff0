import WhileLang.Expr

/-!
# Display names

A finite map from variables to the names under which they are shown, in the order in which the
variables were first named. A variable without a name is shown as `x` and its key. Several
variables may share a name; read back (`identOf?`), it stands for the one that was named last.
-/

namespace WhileLang

/-- Names for some of the variables. -/
structure Names where
  entries : List (Ident × String)
  distinct : (entries.map Prod.fst).Nodup

namespace Names

def empty : Names := ⟨[], List.nodup_nil⟩

instance : EmptyCollection Names := ⟨empty⟩

instance : Inhabited Names := ⟨∅⟩

/-- Replaces the entry for `x` where it stands, or adds one at the end. -/
def insertEntry {α : Type} (x : Ident) (a : α) : List (Ident × α) → List (Ident × α)
  | [] => [(x, a)]
  | (y, b) :: rest => if y = x then (x, a) :: rest else (y, b) :: insertEntry x a rest

theorem keys_insertEntry {α : Type} (x : Ident) (a : α) (es : List (Ident × α)) :
    (insertEntry x a es).map Prod.fst =
      if x ∈ es.map Prod.fst then es.map Prod.fst else es.map Prod.fst ++ [x] := by
  induction es with
  | nil => rfl
  | cons e rest ih =>
    obtain ⟨y, b⟩ := e
    unfold insertEntry
    split
    · rename_i h; simp [h]
    · rename_i h
      simp only [List.map_cons, ih, List.mem_cons, Ne.symm h, false_or]
      split <;> simp

theorem distinct_insertEntry {α : Type} {es : List (Ident × α)} (h : (es.map Prod.fst).Nodup)
    (x : Ident) (a : α) : ((insertEntry x a es).map Prod.fst).Nodup := by
  rw [keys_insertEntry]
  split
  · exact h
  · rename_i hx
    refine List.nodup_append.2 ⟨h, by simp, fun y hy z hz => ?_⟩
    rw [List.mem_singleton.1 hz]
    exact fun hyz => hx (hyz ▸ hy)

def insert (ns : Names) (x : Ident) (name : String) : Names where
  entries := insertEntry x name ns.entries
  distinct := distinct_insertEntry ns.distinct x name

/-- Names given in order; a variable that is named again keeps its place. -/
def ofList (es : List (Ident × String)) : Names := es.foldl (fun ns e => ns.insert e.1 e.2) ∅

def get? (ns : Names) (x : Ident) : Option String :=
  (ns.entries.find? fun e => e.1 = x).map Prod.snd

/-- The text shown for a variable. -/
def display (ns : Names) (x : Ident) : String :=
  match ns.get? x with
  | some name => name
  | none => "x" ++ toString x

/-- The variable that a name stands for: of those that carry it, the one named last. -/
def identOf? (ns : Names) (name : String) : Option Ident :=
  (ns.entries.reverse.find? fun e => e.2 = name).map Prod.fst

@[simp] theorem display_empty (x : Ident) : (∅ : Names).display x = "x" ++ toString x := rfl

theorem display_of_get? {ns : Names} {x : Ident} {name : String} (h : ns.get? x = some name) :
    ns.display x = name := by simp [display, h]

end Names

end WhileLang
