import WhileLang.Proofs.Derivation.LevelOrder
import WhileLang.Proofs.Json.Records
import WhileLang.Proofs.Service.Answers

/-!
# Derivations that are sent back

The nodes that `/derive` answers can be sent to `/verify` as they are. They are a proof, in which
nothing is lost on the way: the list of nodes is the same tree again, and every node is read back
from what it was written as (`derivations_survive_resubmission`). The variables in its states travel
as names of members, which have to be short enough to be read. They are, since the lines of the
answer show all of them (`hasShortKeys_of_outline_eq`).
-/

namespace WhileLang.Service

variable {st : Settings} {r : ProgramRequest} {p : Program}

/-! ## What is sent -/

/-- The body that asks for a check of some nodes under the names of a program. -/
def verifyBody (nodes : List FlatNode) (names : Names) : Json :=
  .object [("nodes", .array (nodes.map FlatNode.toJson)), ("names", names.toJson)]

theorem nodes?_toJson {ns : List FlatNode} (hne : ns ≠ [])
    (hshort : ∀ n ∈ ns, n.hasShortKeys = true) :
    nodes? (.array (ns.map FlatNode.toJson)) = some ns := by
  have hread : (ns.map FlatNode.toJson).mapM Json.toFlatNode? = some (ns.map id) :=
    Json.mapM_map_eq_some fun n hn => by rw [n.toFlatNode?_toJson_eq, if_pos (hshort n hn), id]
  simp [nodes?, Json.elements?, hread, hne]

/-- The variables that have names are those of the catalogue. -/
theorem isShort_names (h : r.resolve = .ok p) : p.names.toJson.isShort = true := by
  have hcatalogue : ∀ q ∈ Catalog.programs, q.names.toJson.isShort = true := by decide +kernel
  obtain ⟨origin, state⟩ := r
  cases origin with
  | given c =>
    obtain rfl := Except.ok.inj h
    rfl
  | catalogue name =>
    simp only [ProgramRequest.resolve, bind_eq_ok_iff] at h
    obtain ⟨q, hq, hp⟩ := h
    obtain rfl := Except.ok.inj hp
    rw [Catalog.find] at hq
    split at hq
    · rename_i q' hq'
      obtain rfl := Except.ok.inj hq
      exact hcatalogue q' (List.mem_of_find?_eq_some hq')
    · cases hq

theorem route_verify {ns : List FlatNode} {names : Names} (hne : ns ≠ [])
    (hshort : ∀ n ∈ ns, n.hasShortKeys = true) (hnames : names.toJson.isShort = true) :
    route "POST" "/verify" (some (verifyBody ns names)) = .ok (.verify ns names) := by
  have hplace : Place.ofTarget? "/verify" = some (.action .verify) := by decide +kernel
  have hread : names.toJson.toNames? = some names := Names.toNames?_toJson hnames
  rw [verifyBody, route_post hplace]
  simp [Action.request?, Json.required, Json.optional, Json.member?, nodes?_toJson hne hshort,
    hread]

/-! ## Variables in lines -/

/-- A variable that is shown has a name or is short. -/
theorem isWritable_of_text_eq {names : Names} {x : Ident} {text : String}
    (hnames : names.toJson.isShort = true) (h : names.text x = .ok text) :
    Text.isWritable x = true := by
  rw [Names.text] at h
  split at h
  · rename_i hshown
    rcases hshown with hnamed | hx
    · obtain ⟨name, hname⟩ := Option.isSome_iff_exists.1 hnamed
      obtain ⟨e, he, -⟩ := Option.map_eq_some_iff.1 hname
      obtain rfl : e.1 = x := by simpa using List.find?_some he
      rw [Names.toJson, Json.isShort, Json.membersShort_iff] at hnames
      exact (Text.digitCount_numeral_le e.1).1
        (hnames _ (List.mem_map_of_mem (List.mem_of_find?_eq_some he))).1
    · exact hx
  · cases h

theorem hasShortKeys_of_render_eq {names : Names} {s : State} {text : String}
    (hnames : names.toJson.isShort = true) (h : s.render names = .ok text) :
    s.hasShortKeys = true := by
  obtain ⟨parts, hparts, -⟩ := bind_eq_ok_iff.1 h
  refine List.all_eq_true.2 fun b hb => ?_
  obtain ⟨part, hpart⟩ := exists_of_mapM_eq_ok hparts b hb
  obtain ⟨key, hkey, -⟩ := bind_eq_ok_iff.1 hpart
  exact isWritable_of_text_eq hnames hkey

theorem mem_preorders {depth : Nat} {d : Derivation} {ds : List Derivation} (hd : d ∈ ds) :
    d.preorder depth ⊆ Derivation.preorders depth ds := by
  induction ds with
  | nil => cases hd
  | cons d' ds ih =>
    rw [Derivation.preorders]
    rcases List.mem_cons.1 hd with rfl | hd
    · exact List.subset_append_left _ _
    · exact List.Subset.trans (ih hd) (List.subset_append_right _ _)

/-- The nodes of a queue of trees are nodes of the trees. -/
theorem exists_mem_preorder {n : FlatNode} {next : Nat} {queue : List Derivation}
    (hn : n ∈ Derivation.flattenQueue next queue) :
    ∃ root ∈ queue, ∀ depth, ∃ k node, (k, node) ∈ root.preorder depth ∧ node.pre = n.pre ∧
      node.post = n.post := by
  induction next, queue using Derivation.flattenQueue.induct with
  | case1 next =>
    rw [Derivation.flattenQueue] at hn
    cases hn
  | case2 next d queue ih =>
    rw [Derivation.flattenQueue] at hn
    rcases List.mem_cons.1 hn with rfl | hn
    · refine ⟨d, List.mem_cons_self .., fun depth => ⟨depth, d, ?_, rfl, rfl⟩⟩
      cases d
      exact List.mem_cons_self ..
    · obtain ⟨root, hroot, hnodes⟩ := ih hn
      rcases List.mem_append.1 hroot with hroot | hroot
      · exact ⟨root, List.mem_cons_of_mem _ hroot, hnodes⟩
      · refine ⟨d, List.mem_cons_self .., fun depth => ?_⟩
        obtain ⟨k, node, hnode, hstates⟩ := hnodes (depth + 1)
        refine ⟨k, node, ?_, hstates⟩
        cases d
        exact List.mem_cons_of_mem _ (mem_preorders hroot hnode)

/-- The lines of a derivation show the variables of all its states. -/
theorem hasShortKeys_of_outline_eq {names : Names} {d : Derivation} {lines : List String}
    (hnames : names.toJson.isShort = true) (h : d.outline names = .ok lines) :
    ∀ n ∈ d.flatten, n.hasShortKeys = true := by
  intro n hn
  obtain ⟨root, hroot, hnodes⟩ := exists_mem_preorder hn
  obtain rfl := List.mem_singleton.1 hroot
  obtain ⟨k, node, hnode, hpre, hpost⟩ := hnodes 0
  obtain ⟨line, hline⟩ := exists_of_mapM_eq_ok h (k, node) hnode
  obtain ⟨pre, hpreText, hline⟩ := bind_eq_ok_iff.1 hline
  obtain ⟨command, -, hline⟩ := bind_eq_ok_iff.1 hline
  obtain ⟨post, hpostText, -⟩ := bind_eq_ok_iff.1 hline
  rw [FlatNode.hasShortKeys, ← hpre, ← hpost, hasShortKeys_of_render_eq hnames hpreText,
    hasShortKeys_of_render_eq hnames hpostText]
  rfl

/-! ## What is answered -/

theorem verify_flatten {d : Derivation} (h : Derivation.Proof .standard d) (names : Names) :
    verify d.flatten names = .ok ⟨true, [], d.outline names⟩ := by
  have hfaults : d.faults .standard = [] := Derivation.faults_eq_nil_iff.2 h
  simp only [verify, bind_eq_ok_iff, Refusal.ofError_eq_ok_iff]
  refine ⟨d, Derivation.unflatten_flatten d, ?_⟩
  simp only [Derivation.holds, Derivation.verify, hfaults]
  rfl

theorem isWritable_textsJson (ts : List String) : (textsJson ts).isWritable = true := by
  rw [textsJson, Json.isWritable]
  induction ts with
  | nil => rfl
  | cons t ts ih => simpa [Json.elementsWritable, Json.isWritable] using ih

theorem flatten_ne_nil (d : Derivation) : d.flatten ≠ [] := by
  rw [Derivation.flatten, Derivation.flattenQueue]
  exact List.cons_ne_nil _ _

/-- **Nodes that are sent back.** -/
theorem respond_verify_flatten (st : Settings) {d : Derivation}
    (h : Derivation.Proof .standard d) {names : Names} (hnames : names.toJson.isShort = true)
    {lines : List String} (hlines : d.outline names = .ok lines) :
    respond st "POST" "/verify" (some (verifyBody d.flatten names)) =
      (200, .object [("valid", .bool true), ("issues", .array []),
        ("lines", textsJson lines)]) := by
  have hroute := route_verify (flatten_ne_nil d) (hasShortKeys_of_outline_eq hnames hlines) hnames
  refine respond_eq_ok_iff.2 ⟨_, .verify ⟨true, [], .ok lines⟩, hroute, ?_,
    Response.written_eq_ok_iff.2 ⟨rfl, ?_⟩⟩
  · rw [answer, verify_flatten h, hlines]
    rfl
  · simp [Json.isWritable, Json.membersWritable, Json.elementsWritable, isWritable_textsJson]

/-- **Derivations survive being sent back.** -/
theorem derivations_survive_resubmission (st : Settings) (method target : String)
    (body : Option Json) (r : ProgramRequest) (asked : Option Int) (reply : Json)
    (hroute : route method target body = .ok (.derive r asked))
    (hreply : respond st method target body = (200, reply))
    (hnodes : reply.field? "nodes" ≠ some .null) :
    ∃ (p : Program) (ns : List FlatNode) (lines : List String), r.resolve = .ok p ∧
      reply = .object [("nodes", .array (ns.map FlatNode.toJson)), ("valid", .bool true),
        ("issues", .array []), ("lines", textsJson lines)] ∧
      respond st "POST" "/verify" (some (.object [("nodes", .array (ns.map FlatNode.toJson)),
        ("names", p.names.toJson)])) =
          (200, .object [("valid", .bool true), ("issues", .array []),
            ("lines", textsJson lines)]) := by
  obtain ⟨q, x, hq, hx, hwritten⟩ := respond_eq_ok_iff.1 hreply
  obtain rfl : Request.derive r asked = q := Except.ok.inj (hroute.symm.trans hq)
  obtain ⟨y, hy, rfl⟩ := map_eq_ok_iff.1 hx
  obtain ⟨k, p, hp, rfl⟩ := exists_of_derive_eq hy
  obtain ⟨lines, hlines, hrecord⟩ := bind_eq_ok_iff.1 (Response.written_eq_ok_iff.1 hwritten).1
  cases hrecord
  cases hd : p.command.derive .standard k p.initial with
  | none =>
    rw [hd] at hnodes
    exact absurd rfl hnodes
  | some d =>
    rw [hd] at hlines
    exact ⟨p, d.flatten, lines, hp, rfl,
      respond_verify_flatten st (Command.derives_of_derive hd).proof (isShort_names hp) hlines⟩

/-! ## Bare commands -/

theorem route_derive (c : Command) :
    route "POST" "/derive" (some (.object [("command", c.toJson)])) =
      .ok (.derive ⟨.given c, none⟩ none) := by
  have hplace : Place.ofTarget? "/derive" = some (.action .derive) := by decide +kernel
  have hprogram : programRequest? [("command", c.toJson)] = some ⟨.given c, none⟩ :=
    programRequest?_eq rfl rfl rfl
  rw [route_post hplace]
  simp [Action.request?, hprogram, optionalField, Json.member?]

/-- The derivation of a command that is given alone. -/
theorem respond_derive {c : Command} {d : Derivation} {lines : List String}
    (hd : c.derive .standard 1000 .initial = some d) (hlines : d.outline ∅ = .ok lines)
    (hwritable : Json.elementsWritable (d.flatten.map FlatNode.toJson) = true) :
    respond {} "POST" "/derive" (some (.object [("command", c.toJson)])) =
      (200, .object [("nodes", .array (d.flatten.map FlatNode.toJson)), ("valid", .bool true),
        ("issues", .array []), ("lines", textsJson lines)]) := by
  have hbudget : budgetOf {} none = .ok ((1000 : Nat) : Int) := rfl
  have hanswer : answer {} (.derive ⟨.given c, none⟩ none) = .ok (.derive (.ofDerivation ∅ d)) := by
    rw [answer, derive_eq hbudget (resolve_given c)]
    show Except.ok (Response.derive (.ofDerivation ∅ (c.derive .standard 1000 .initial))) = _
    rw [hd]
  refine respond_eq_ok_iff.2 ⟨_, _, route_derive c, hanswer, Response.written_eq_ok_iff.2 ⟨?_, ?_⟩⟩
  · rw [Response.toJson, DeriveResponse.ofDerivation, hlines]
    rfl
  · simp [Json.isWritable, Json.membersWritable, Json.elementsWritable, isWritable_textsJson,
      hwritable]

/-- The derivation of an assignment and a loop without turns is sent back and found to be valid. -/
theorem derivations_survive_resubmission_loop :
    let c : Command := .seq (.assign 0 (.number 1)) (.loop .ff .skip)
    ∃ (ns : List FlatNode) (lines : List String),
      respond {} "POST" "/derive" (some (.object [("command", c.toJson)])) =
        (200, .object [("nodes", .array (ns.map FlatNode.toJson)), ("valid", .bool true),
          ("issues", .array []), ("lines", textsJson lines)]) ∧
      respond {} "POST" "/verify" (some (.object [("nodes", .array (ns.map FlatNode.toJson)),
        ("names", (∅ : Names).toJson)])) =
          (200, .object [("valid", .bool true), ("issues", .array []),
            ("lines", textsJson lines)]) := by
  intro c
  let t : State := State.initial.update 0 1
  let d : Derivation := ⟨.seq, c, .initial, t,
    [⟨.assign, .assign 0 (.number 1), .initial, t, []⟩, ⟨.loopFalse, .loop .ff .skip, t, t, []⟩]⟩
  have hd : c.derive .standard 1000 .initial = some d := rfl
  have hflat : d.flatten = [⟨.seq, c, .initial, t, [1, 2]⟩,
      ⟨.assign, .assign 0 (.number 1), .initial, t, []⟩,
      ⟨.loopFalse, .loop .ff .skip, t, t, []⟩] := by
    simp [d, Derivation.flatten, Derivation.flattenQueue, Derivation.places, List.range']
  have hwritable : Json.elementsWritable (d.flatten.map FlatNode.toJson) = true := by
    rw [hflat]
    decide +kernel
  have hlines : (d.outline ∅).isOk = true := by decide +kernel
  cases houtline : d.outline ∅ with
  | error e =>
    rw [houtline] at hlines
    cases hlines
  | ok lines =>
    have hreply := respond_derive hd houtline hwritable
    obtain ⟨p, ns, lines', hp, heq, hverify⟩ := derivations_survive_resubmission {} "POST" "/derive"
      _ _ none _ (route_derive c) hreply (by simp [Json.field?, Json.member?])
    obtain rfl := Except.ok.inj hp
    exact ⟨ns, lines', heq ▸ hreply, hverify⟩

end WhileLang.Service
