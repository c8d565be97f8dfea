import Mathlib.Data.List.Basic
import Pasteboard.Text.Clip
/-!
A clip is the longest beginning of a text that fits.

It ends at the last boundary between characters within the room, which the search from above cannot miss: the beginning
of the text is a boundary. Whatever else the text begins with and fits ends at a boundary, so it is a beginning of the
clip. How much room a clip leaves, and what becomes of a clip that is clipped again, follows from that alone.
-/

namespace Pasteboard.Text

/-- What is kept of a list of characters is its longest beginning within a number of bytes. -/
structure Clipped (room : Nat) (cs kept : List Char) : Prop where
  begins : kept <+: cs
  fits : byteSize kept ≤ room
  longest : ∀ v, v <+: cs → byteSize v ≤ room → v <+: kept

variable {room : Nat} {c : Char} {cs : List Char}

theorem byteSize_cons (c : Char) (cs : List Char) : byteSize (c :: cs) = c.utf8Size + byteSize cs := rfl

theorem byteSize_append (cs ds : List Char) : byteSize (cs ++ ds) = byteSize cs + byteSize ds := by
  induction cs with
  | nil => simp [byteSize]
  | cons c cs ih => rw [List.cons_append, byteSize_cons, byteSize_cons, ih, Nat.add_assoc]

theorem byteSize_eq_zero : byteSize cs = 0 ↔ cs = [] := by
  cases cs with
  | nil => simp [byteSize]
  | cons c cs =>
    have := c.utf8Size_pos
    simp only [byteSize_cons, List.cons_ne_nil, iff_false]
    omega

theorem utf8ByteSize_ofList (cs : List Char) : (String.ofList cs).utf8ByteSize = byteSize cs := by
  induction cs with
  | nil => rfl
  | cons c cs ih =>
    have hcons : String.ofList (c :: cs) = String.singleton c ++ String.ofList cs := by
      rw [String.singleton_eq_ofList, ← String.ofList_append, List.singleton_append]
    rw [hcons, String.utf8ByteSize_append, String.utf8ByteSize_singleton, ih, byteSize_cons]

theorem byteSize_toList (s : String) : byteSize s.toList = s.utf8ByteSize := by
  rw [← utf8ByteSize_ofList, String.ofList_toList]

/-! ### Boundaries -/

/-- A boundary is the last one within a number of bytes. -/
structure LastBoundary (room : Nat) (s : String) (p : s.Pos) : Prop where
  fits : p.offset.byteIdx ≤ room
  last : ∀ q : s.Pos, q.offset.byteIdx ≤ room → q ≤ p

theorem pos?_eq_some_iff {s : String} {place : String.Pos.Raw} {p : s.Pos} :
    s.pos? place = some p ↔ p.offset = place := by
  constructor
  · intro h
    simp only [String.pos?, String.Slice.pos?, Option.map_eq_some_iff, Option.dite_none_right_eq_some,
      Option.some.injEq] at h
    obtain ⟨_, ⟨_, rfl⟩, rfl⟩ := h
    rfl
  · rintro rfl
    have hvalid : p.offset.isValidForSlice s.toSlice = true := by simpa using p.isValid
    rw [String.pos?, String.Slice.pos?, dif_pos hvalid]
    rfl

/-- The search ends at the last boundary, before it goes past the beginning. -/
theorem exists_lastBoundary? (s : String) (room : Nat) :
    ∃ p, lastBoundary? s room = some p ∧ LastBoundary room s p := by
  induction room with
  | zero => exact ⟨s.startPos, pos?_eq_some_iff.mpr rfl, Nat.le_refl 0, fun q hq => String.Pos.le_iff.mpr hq⟩
  | succ room ih =>
    cases hplace : s.pos? ⟨room + 1⟩ with
    | some p =>
      have hoffset : p.offset.byteIdx = room + 1 := congrArg _ (pos?_eq_some_iff.mp hplace)
      refine ⟨p, by rw [lastBoundary?, hplace]; rfl, Nat.le_of_eq hoffset, fun q hq => String.Pos.le_iff.mpr ?_⟩
      rw [String.Pos.Raw.le_iff, hoffset]
      exact hq
    | none =>
      obtain ⟨p, hp, hlast⟩ := ih
      refine ⟨p, by rw [lastBoundary?, hplace, hp]; rfl, Nat.le_succ_of_le hlast.fits, fun q hq => hlast.last q ?_⟩
      have hother : q.offset.byteIdx ≠ room + 1 := fun heq => by
        have hq : s.pos? ⟨room + 1⟩ = some q := pos?_eq_some_iff.mpr (String.Pos.Raw.ext heq)
        cases hplace.symm.trans hq
      omega

theorem LastBoundary.clipped {s : String} {p : s.Pos} (h : LastBoundary room s p) :
    Clipped room s.toList (s.sliceTo p).copy.toList := by
  have hsplits := p.splits
  have hsize : (s.sliceTo p).copy.utf8ByteSize = p.offset.byteIdx :=
    congrArg String.Pos.Raw.byteIdx hsplits.offset_eq_rawEndPos.symm
  refine ⟨⟨(s.sliceFrom p).copy.toList, ?_⟩, by rw [byteSize_toList, hsize]; exact h.fits, ?_⟩
  · rw [← String.toList_append, ← hsplits.eq_append]
  · rintro v ⟨rest, hv⟩ hfits
    -- What begins the text ends at a boundary of its own.
    have hs : s = String.ofList v ++ String.ofList rest := by rw [← String.ofList_append, hv, String.ofList_toList]
    have hsplits' := String.Pos.splits_ofEqAppend hs
    have hq : (String.Pos.ofEqAppend hs).offset.byteIdx = byteSize v :=
      (congrArg _ hsplits'.offset_eq_rawEndPos).trans (utf8ByteSize_ofList v)
    obtain ⟨more, hmore, -⟩ := (hsplits'.le_iff_exists_eq_append hsplits).mp (h.last _ (hq ▸ hfits))
    exact ⟨more.toList, by rw [hmore, String.toList_append, String.toList_ofList]⟩

/-! ### Clips -/

/-- A text that fits is its own clip. -/
theorem Clipped.refl (h : byteSize cs ≤ room) : Clipped room cs cs := ⟨List.prefix_rfl, h, fun _ hv _ => hv⟩

theorem Clipped.unique {kept kept' : List Char} (h : Clipped room cs kept) (h' : Clipped room cs kept') :
    kept = kept' :=
  (h'.longest kept h.begins h.fits).eq_of_length_le (h.longest kept' h'.begins h'.fits).length_le

theorem LastBoundary.clip_eq {s : String} {p : s.Pos} (h : LastBoundary room s p) :
    clip room s = (s.sliceTo p).copy := by
  rw [clip]
  by_cases hfits : s.utf8ByteSize ≤ room
  · have hall := h.clipped.unique (.refl (byteSize_toList s ▸ hfits))
    rw [if_pos hfits, String.toList_inj.mp hall]
  · obtain ⟨q, hq, hlast⟩ := exists_lastBoundary? s room
    have hqp : q = p := Std.le_antisymm (h.last q hlast.fits) (hlast.last p h.fits)
    rw [if_neg hfits, hq, hqp]

theorem clipped_clip (room : Nat) (s : String) : Clipped room s.toList (clip room s).toList := by
  obtain ⟨p, -, hlast⟩ := exists_lastBoundary? s room
  rw [hlast.clip_eq]
  exact hlast.clipped

/-- What stands behind a text that fills the room is cut off. -/
theorem Clipped.append {kept : List Char} (h : Clipped room cs kept) (hfull : room ≤ byteSize cs) (more : List Char) :
    Clipped room (cs ++ more) kept := by
  refine ⟨h.begins.trans (List.prefix_append cs more), h.fits, fun v hv hsize => ?_⟩
  rcases List.prefix_or_prefix_of_prefix hv (List.prefix_append cs more) with hshort | ⟨rest, rfl⟩
  · exact h.longest v hshort hsize
  · rw [byteSize_append] at hsize
    have hrest : rest = [] := byteSize_eq_zero.mp (by omega)
    rw [hrest, List.append_nil]
    exact h.longest cs List.prefix_rfl (Nat.le_of_add_right_le hsize)

theorem clip_append {s : String} (hfull : room ≤ s.utf8ByteSize) (t : String) : clip room (s ++ t) = clip room s := by
  have hcut := (clipped_clip room s).append (byteSize_toList s ▸ hfull) t.toList
  rw [← String.toList_append] at hcut
  exact String.toList_inj.mp ((clipped_clip room (s ++ t)).unique hcut)

/-- A clip begins with the first character if there is room for it. -/
theorem Clipped.cons {kept : List Char} (h : Clipped room (c :: cs) kept) (hroom : c.utf8Size ≤ room) :
    ∃ rest, kept = c :: rest := by
  obtain ⟨rest, hrest⟩ := h.longest [c] (List.cons_prefix_cons.mpr ⟨rfl, List.nil_prefix⟩) hroom
  exact ⟨rest, hrest.symm⟩

/-- A character has at most four bytes, so at most three bytes are left where one does not fit any more. -/
theorem Clipped.le_add_three {kept : List Char} (h : Clipped room cs kept) (hlong : room < byteSize cs) :
    room ≤ byteSize kept + 3 := by
  obtain ⟨rest, rfl⟩ := h.begins
  cases rest with
  | nil =>
    rw [List.append_nil] at hlong
    exact absurd h.fits (Nat.not_le.mpr hlong)
  | cons c rest =>
    by_contra hroom
    have hsize : byteSize (kept ++ [c]) = byteSize kept + c.utf8Size := by rw [byteSize_append, byteSize_cons]; rfl
    have hmore := h.longest (kept ++ [c]) ⟨rest, by simp⟩ (by have := c.utf8Size_le_four; omega)
    have hlength := hmore.length_le
    rw [List.length_append, List.length_singleton] at hlength
    omega

/-- What is clipped twice is clipped to the smaller room. -/
theorem Clipped.trans {room' : Nat} {kept kept' : List Char} (h : Clipped room cs kept)
    (h' : Clipped room' kept kept') :
    Clipped (min room room') cs kept' := by
  refine ⟨h'.begins.trans h.begins, Nat.le_min.mpr ⟨?_, h'.fits⟩, fun v hv hsize => ?_⟩
  · obtain ⟨rest, rfl⟩ := h'.begins
    have hfits := h.fits
    rw [byteSize_append] at hfits
    omega
  · obtain ⟨hroom, hroom'⟩ := Nat.le_min.mp hsize
    exact h'.longest v (h.longest v hv hroom) hroom'

/-- Where there is room for a character, the clip of a text that is not empty is not empty. -/
theorem Clipped.ne_nil {kept : List Char} (h : Clipped room cs kept) (hroom : 4 ≤ room) (hcs : cs ≠ []) :
    kept ≠ [] := by
  obtain ⟨c, cs, rfl⟩ := List.exists_cons_of_ne_nil hcs
  obtain ⟨rest, rfl⟩ := h.cons (Nat.le_trans c.utf8Size_le_four hroom)
  exact List.cons_ne_nil c rest

/-- The search for the end of a clip ends at the last boundary within the room, before it goes past the beginning. The
clip is what stands before that boundary: the longest beginning of the text that fits. Of a longer text it leaves at
most three bytes of the room. A clip that is clipped again is the clip to the smaller room. -/
theorem clip_ends_at_last_boundary (room : Nat) (s : String) :
    (∃ p : s.Pos, lastBoundary? s room = some p ∧ p.offset.byteIdx ≤ room ∧
      (∀ q : s.Pos, q.offset.byteIdx ≤ room → q ≤ p) ∧ clip room s = (s.sliceTo p).copy) ∧
    Clipped room s.toList (clip room s).toList ∧
    (room < s.utf8ByteSize → room ≤ (clip room s).utf8ByteSize + 3) ∧
    ∀ room', clip room' (clip room s) = clip (min room room') s := by
  obtain ⟨p, hp, hlast⟩ := exists_lastBoundary? s room
  have hclipped := clipped_clip room s
  refine ⟨⟨p, hp, hlast.fits, hlast.last, hlast.clip_eq⟩, hclipped, fun hlong => ?_, fun room' => ?_⟩
  · rw [← byteSize_toList] at hlong ⊢
    exact hclipped.le_add_three hlong
  · have htwice := hclipped.trans (clipped_clip room' (clip room s))
    exact String.toList_inj.mp (htwice.unique (clipped_clip (min room room') s))

example : clip 5 "日本" = "日" := by cbv

end Pasteboard.Text
