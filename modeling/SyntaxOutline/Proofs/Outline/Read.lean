import Mathlib.Data.List.Induction
import Mathlib.Data.Nat.Init
import SyntaxOutline.Proofs.Outline.Represents

/-!
# Reading outlines

A node is read from exactly the texts of objects that represent it, with no more brackets open at
once than there is room for.

* `readNode_within` : the text of such an object is read, and if only the room is missing, reading
  fails for that reason.
* `readNode_readsOnly` : whatever is read is the text of such an object.
* `ofJson?_eq_ok_iff` : both together, for whole texts.
-/

namespace SyntaxOutline.Outline

open Json (Literal Tree Token Reader Reads ReadsOnly Within Spaced Ends Takes Keeps)

/-! ## Members -/

section

variable {room : Nat} {child : Tree → Outline → Prop} {readChildren : Reader (List Outline)}
  {readOther : Reader Json}

theorem readMember_within (hchildren : Reads room readChildren (Tree.IsList child))
    (hother : Reads room readOther Tree.Denotes) {m next : Members}
    {name : String} {v : Tree} (h : Adds child m name v next) {cs rest : List Char}
    (hcs : Spaced (.mark ':' :: v.tokens) cs rest) (hrest : Ends rest) :
    Within (v.nesting ≤ room) (readMember readChildren readOther m name cs) (next, rest) := by
  cases h with
  | content free holds =>
    rw [readMember, if_pos rfl, free, if_neg (by decide)]
    exact Json.readColon_within (Json.readText_reads room) holds hcs hrest rfl
  | kind free holds =>
    rw [readMember, if_neg (by decide), if_pos rfl, free, if_neg (by decide)]
    exact Json.readColon_within (Json.readOptionalText_reads room) holds hcs hrest rfl
  | children free holds =>
    rw [readMember, if_neg (by decide), if_neg (by decide), if_pos rfl, free, if_neg (by decide)]
    exact Json.readColon_within hchildren holds hcs hrest rfl
  | other unplaced holds =>
    have hne := List.forall_mem_ne.mpr unplaced
    rw [readMember, if_neg (hne _ (by decide)), if_neg (hne _ (by decide)),
      if_neg (hne _ (by decide))]
    exact Json.readColon_within hother holds hcs hrest rfl

/-- Members that can be collected are read one after the other. -/
theorem takes_readMember (hchildren : Reads room readChildren (Tree.IsList child))
    (hother : Reads room readOther Tree.Denotes)
    {ms : List (Literal × Tree)} {m : Members} (h : Collects child ms m) :
    Takes room (readMember readChildren readOther) {} ms m := by
  induction ms using List.reverseRecOn generalizing m with
  | nil =>
    obtain rfl := h.eq_empty
    exact .nil
  | append_singleton pre p ih =>
    obtain ⟨k, v⟩ := p
    obtain ⟨name, hk⟩ := h.names (k, v) (by simp)
    obtain ⟨m', hpre, hadds⟩ := h.exists_adds hk
    exact (ih hpre).concat hk fun hcs hrest =>
      readMember_within hchildren hother hadds hcs hrest

/-- A member that is read adds itself to the members in front of it. -/
theorem exists_adds_of_readMember
    (hchildren : ReadsOnly room readChildren (Tree.IsList child))
    (hother : ReadsOnly room readOther Tree.Denotes) {m next : Members} {name : String}
    {cs rest : List Char} (h : readMember readChildren readOther m name cs = .ok (next, rest)) :
    ∃ v, (v.nesting ≤ room ∧ Adds child m name v next) ∧
      Spaced (.mark ':' :: v.tokens) cs rest := by
  rw [readMember] at h
  split at h
  · rename_i hname
    subst hname
    split at h
    · exact absurd h Json.failInObject_ne_ok
    · rename_i hfree
      obtain ⟨v, s, ⟨hfits, hv⟩, rfl, hspaced⟩ :=
        Json.exists_value_of_readColon (Json.readText_readsOnly room) h fun _ _ => rfl
      exact ⟨v, ⟨hfits, .content (by simpa using hfree) hv⟩, hspaced⟩
  split at h
  · rename_i hname
    subst hname
    split at h
    · exact absurd h Json.failInObject_ne_ok
    · rename_i hfree
      obtain ⟨v, s, ⟨hfits, hv⟩, rfl, hspaced⟩ := Json.exists_value_of_readColon
        (Json.readOptional_readsOnly (Json.readText_readsOnly room)) h fun _ _ => rfl
      exact ⟨v, ⟨hfits, .kind (by simpa using hfree) hv⟩, hspaced⟩
  split at h
  · rename_i hname
    subst hname
    split at h
    · exact absurd h Json.failInObject_ne_ok
    · rename_i hfree
      obtain ⟨v, os, ⟨hfits, hv⟩, rfl, hspaced⟩ :=
        Json.exists_value_of_readColon hchildren h fun _ _ => rfl
      exact ⟨v, ⟨hfits, .children (by simpa using hfree) hv⟩, hspaced⟩
  · rename_i hcontent hkind hlist
    obtain ⟨v, j, ⟨hfits, hv⟩, rfl, hspaced⟩ :=
      Json.exists_value_of_readColon hother h fun _ _ => rfl
    have unplaced : name ∉ placedNames := by simp [placedNames, hcontent, hkind, hlist]
    exact ⟨v, ⟨hfits, .other unplaced hv⟩, hspaced⟩

theorem readMember_keeps
    (hchildren : ReadsOnly room readChildren (Tree.IsList child))
    (hother : ReadsOnly room readOther Tree.Denotes) :
    Keeps room (readMember readChildren readOther) (Collects child) := by
  intro pre m k name cs next rest hcollects hk h
  obtain ⟨v, ⟨hfits, hadds⟩, hspaced⟩ := exists_adds_of_readMember hchildren hother h
  exact ⟨v, ⟨hfits, hcollects.concat hk hadds⟩, hspaced⟩

end

/-! ## Nodes -/

section

variable {room : Nat} {readChildren : Reader (List Outline)} {readOther : Reader Json}

theorem readBody_within
    (hchildren : Reads room readChildren (Tree.IsList Represents))
    (hother : Reads room readOther Tree.Denotes)
    {ms : List (Literal × Tree)} {o : Outline} (h : Represents (.object ms) o)
    {cs rest : List Char} (hcs : Spaced (Tree.objectTokens ms) cs rest) :
    Within ((Tree.object ms).nesting ≤ room + 1) (readBody readChildren readOther cs)
      (o, rest) := by
  obtain ⟨m, hcollects, hm⟩ := h.exists_collects
  have hread := Json.readMembers_within (takes_readMember hchildren hother hcollects) hcs
  refine Within.congr (hread.bind_ok ?_) Json.nesting_object_le_iff
  simp only [hm]
  rfl

theorem exists_object_of_readBody
    (hchildren : ReadsOnly room readChildren (Tree.IsList Represents))
    (hother : ReadsOnly room readOther Tree.Denotes) {o : Outline} {cs rest : List Char}
    (h : readBody readChildren readOther cs = .ok (o, rest)) :
    ∃ ms, ((Tree.object ms).nesting ≤ room + 1 ∧ Represents (.object ms) o) ∧
      Spaced (Tree.objectTokens ms) cs rest := by
  obtain ⟨⟨m, rest'⟩, hmembers, h⟩ := bind_eq_ok_iff.mp h
  have hempty : Collects Represents [] {} := ⟨by simp, .nil, .nil, .nil, .nil⟩
  obtain ⟨ms, ⟨hnesting, hcollects⟩, hspaced⟩ := Json.exists_members_of_readMembers
    (readMember_keeps hchildren hother) hempty hmembers
  dsimp only at h
  split at h
  · rename_i o' ho'
    cases h
    exact ⟨ms, ⟨Json.nesting_object_le_iff.mpr hnesting, hcollects.represents ho'⟩, hspaced⟩
  · exact absurd h Json.failHere_ne_ok

end

section

variable (P : Tree → Outline → Prop)

theorem refuseList_reads : Reads 0 refuseList (Tree.IsList P) := by
  rintro _ os cs rest ⟨vs, rfl, -⟩ hcs -
  rw [Tree.tokens_array] at hcs
  obtain ⟨mid, hmid, -⟩ := (Json.spaced_mark (by decide)).mp hcs
  rw [refuseList, hmid]
  exact Json.within_failNext.congr (by simp [Tree.nesting])

theorem refuseList_readsOnly : ReadsOnly 0 refuseList (Tree.IsList P) := by
  intro cs os rest h
  unfold refuseList at h
  split at h
  · exact absurd h Json.failHere_ne_ok
  · exact absurd h Json.failNext_ne_ok
  · exact absurd h Json.mismatch_ne_ok

variable {P} {room : Nat} {child : Reader Outline}

theorem readList_reads (hchild : Reads room child P) :
    Reads (room + 1) (readList child) (Tree.IsList P) := by
  rintro _ os cs rest ⟨vs, rfl, hvs⟩ hcs -
  rw [Tree.tokens_array] at hcs
  obtain ⟨mid, hmid, hitems⟩ := (Json.spaced_mark (by decide)).mp hcs
  rw [readList, hmid]
  exact (Json.readItems_within hchild hvs hitems).congr Json.nesting_array_le_iff

theorem readList_readsOnly (hchild : ReadsOnly room child P) :
    ReadsOnly (room + 1) (readList child) (Tree.IsList P) := by
  intro cs os rest h
  unfold readList at h
  split at h
  · exact absurd h Json.failHere_ne_ok
  · rename_i mid hmid
    obtain ⟨vs, ⟨hnesting, hvs⟩, hspaced⟩ := Json.exists_items_of_readItems hchild h
    refine ⟨.array vs, ⟨Json.nesting_array_le_iff.mpr hnesting, vs, rfl, hvs⟩, ?_⟩
    rw [Tree.tokens_array]
    exact (Json.spaced_mark (by decide)).mpr ⟨mid, hmid, hspaced⟩
  · exact absurd h Json.mismatch_ne_ok

end

theorem readNode_zero {cs mid : List Char} (h : Json.skipBlanks cs = '\x7b' :: mid) :
    readNode 0 cs = Json.failNext .tooDeep ('\x7b' :: mid) := by
  rw [readNode.eq_def]
  dsimp only
  rw [h]
  rfl

theorem readNode_one {cs mid : List Char} (h : Json.skipBlanks cs = '\x7b' :: mid) :
    readNode 1 cs = readBody refuseList (Json.readValue 0) mid := by
  rw [readNode.eq_def]
  dsimp only
  rw [h]
  rfl

theorem readNode_add_two (room : Nat) {cs mid : List Char}
    (h : Json.skipBlanks cs = '\x7b' :: mid) :
    readNode (room + 2) cs =
      readBody (readList (readNode room)) (Json.readValue (room + 1)) mid := by
  rw [readNode.eq_def]
  dsimp only
  rw [h]
  rfl

theorem exists_brace_of_readNode {room : Nat} {cs rest : List Char} {o : Outline}
    (h : readNode room cs = .ok (o, rest)) : ∃ mid, Json.skipBlanks cs = '\x7b' :: mid := by
  rw [readNode.eq_def] at h
  dsimp only at h
  split at h
  · exact absurd h Json.failHere_ne_ok
  · exact ⟨_, ‹_›⟩
  · exact ⟨_, ‹_›⟩
  · exact ⟨_, ‹_›⟩
  · exact absurd h Json.mismatch_ne_ok

theorem Represents.exists_object {v : Tree} {o : Outline} (h : Represents v o) :
    ∃ ms, v = .object ms := by
  cases h with
  | @object ms => exact ⟨ms, rfl⟩

/-- **Nodes.** The text of an object that represents an outline is read if there is room for its
brackets. Whatever follows it is left, because the closing brace ends it. -/
theorem readNode_within (room : Nat) {v : Tree} {o : Outline} (hv : Represents v o)
    {cs rest : List Char} (hcs : Spaced v.tokens cs rest) :
    Within (v.nesting ≤ room) (readNode room cs) (o, rest) := by
  induction room using Nat.twoStepInduction generalizing v o cs rest with
  | zero =>
    obtain ⟨ms, rfl⟩ := hv.exists_object
    rw [Tree.tokens_object] at hcs
    obtain ⟨mid, hmid, -⟩ := (Json.spaced_mark (by decide)).mp hcs
    rw [readNode_zero hmid]
    exact Json.within_failNext.congr (by simp [Tree.nesting])
  | one =>
    obtain ⟨ms, rfl⟩ := hv.exists_object
    rw [Tree.tokens_object] at hcs
    obtain ⟨mid, hmid, hmembers⟩ := (Json.spaced_mark (by decide)).mp hcs
    rw [readNode_one hmid]
    exact readBody_within (refuseList_reads _) (Json.readValue_reads 0) hv hmembers
  | more room ih _ =>
    have hchild : Reads room (readNode room) Represents := fun _ _ _ _ hv hcs _ => ih hv hcs
    obtain ⟨ms, rfl⟩ := hv.exists_object
    rw [Tree.tokens_object] at hcs
    obtain ⟨mid, hmid, hmembers⟩ := (Json.spaced_mark (by decide)).mp hcs
    rw [readNode_add_two room hmid]
    exact readBody_within (readList_reads hchild) (Json.readValue_reads _) hv hmembers

/-- What is read as a node is the text of an object that represents it. -/
theorem readNode_readsOnly (room : Nat) : ReadsOnly room (readNode room) Represents := by
  have brace : ∀ {cs mid rest : List Char} {ms : List (Literal × Tree)},
      Json.skipBlanks cs = '\x7b' :: mid → Spaced (Tree.objectTokens ms) mid rest →
      Spaced (Tree.object ms).tokens cs rest := by
    intro cs mid rest ms hmid hms
    rw [Tree.tokens_object]
    exact (Json.spaced_mark (by decide)).mpr ⟨mid, hmid, hms⟩
  induction room using Nat.twoStepInduction with
  | zero =>
    intro cs o rest h
    obtain ⟨mid, hmid⟩ := exists_brace_of_readNode h
    rw [readNode_zero hmid] at h
    exact absurd h Json.failNext_ne_ok
  | one =>
    intro cs o rest h
    obtain ⟨mid, hmid⟩ := exists_brace_of_readNode h
    rw [readNode_one hmid] at h
    obtain ⟨ms, hms, hspaced⟩ :=
      exists_object_of_readBody (refuseList_readsOnly _) (Json.readValue_readsOnly 0) h
    exact ⟨.object ms, hms, brace hmid hspaced⟩
  | more room ih _ =>
    intro cs o rest h
    obtain ⟨mid, hmid⟩ := exists_brace_of_readNode h
    rw [readNode_add_two room hmid] at h
    obtain ⟨ms, hms, hspaced⟩ :=
      exists_object_of_readBody (readList_readsOnly ih) (Json.readValue_readsOnly _) h
    exact ⟨.object ms, hms, brace hmid hspaced⟩

/-! ## Whole texts -/

/-- The text of an object that represents an outline is read if fewer than 128 brackets are open at
once, and otherwise refused for that reason. -/
theorem ofJson?_within {v : Tree} {s : String} {o : Outline} (hs : v.Spells s)
    (hv : Represents v o) : Within (v.nesting < 128) (ofJson? s) o := by
  obtain ⟨blanks, hblank, hspaced⟩ := hs
  have hread := readNode_within Json.maxRoom hv hspaced
  refine Within.congr (hread.bind_ok ?_) Nat.lt_succ_iff
  dsimp only
  rw [Json.skipBlanks_eq_nil_iff.mpr hblank]
  rfl

/-- A text holds an outline if and only if it spells an object that represents the outline, with
fewer than 128 brackets open at once. -/
theorem ofJson?_eq_ok_iff (s : String) (o : Outline) :
    ofJson? s = .ok o ↔ ∃ v : Tree, v.Spells s ∧ v.nesting < 128 ∧ Represents v o := by
  constructor
  · intro h
    obtain ⟨rest, hread, hblank⟩ := Json.exists_rest_of_readWhole h
    obtain ⟨v, ⟨hnesting, hv⟩, hspaced⟩ := readNode_readsOnly _ _ _ _ hread
    exact ⟨v, ⟨rest, hblank, hspaced⟩, Nat.lt_succ_of_le hnesting, hv⟩
  · rintro ⟨v, hs, hnesting, hv⟩
    exact (ofJson?_within hs hv).1 hnesting

end SyntaxOutline.Outline
