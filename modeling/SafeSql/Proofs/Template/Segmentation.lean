import SafeSql.Proofs.Rendering.Outcome

/-!
# Segmentation

Cutting a template into segments loses nothing of it, and leaves no choice where to cut: no stretch
of literal text is empty, and no two of them stand side by side.

## Main definitions

* `Canonical` — segments that could not be cut or joined any further.

## Main statements

* `canonical_of_segmentsFrom` — the segments of a text are such.
* `segments_lossless` — the segments of a template, put together, are the template.
-/

namespace SafeSql.Template

def Segment.isPlaceholder : Segment → Bool
  | .literal _ => false
  | .placeholder _ => true

/-- No stretch of literal text is empty, and of two neighbours one is a placeholder. -/
structure Canonical (segments : List Segment) : Prop where
  nonempty : ∀ text, Segment.literal text ∈ segments → text ≠ []
  apart : segments.IsChain fun segment next => segment.isPlaceholder ∨ next.isPlaceholder

section Cutting

variable {d : Dialect} {template : String} {offset : Nat} {text : List Char}
  {segments : List Segment}

theorem canonical_nil : Canonical [] :=
  ⟨by simp, .nil⟩

theorem canonical_placeholder (p : Placeholder) (later : Canonical segments) :
    Canonical (.placeholder p :: segments) := by
  refine ⟨fun text mem => later.nonempty text (by simpa using mem), ?_⟩
  cases segments with
  | nil => exact .singleton _
  | cons next rest => exact List.isChain_cons_cons.mpr ⟨.inl rfl, later.apart⟩

/-- Literal text in front of segments becomes one with the literal text in front of them. -/
theorem canonical_literalCons (some : text ≠ []) (later : Canonical segments) :
    Canonical (literalCons text segments) := by
  obtain ⟨nonempty, apart⟩ := later
  rcases segments with _ | ⟨more | p, rest⟩
  · exact ⟨by simp [literalCons, some], .singleton _⟩
  · refine ⟨fun text' mem => ?_, ?_⟩
    · rcases List.mem_cons.mp mem with same | mem
      · cases same
        simp [some]
      · exact nonempty text' (List.mem_cons_of_mem _ mem)
    · cases rest with
      | nil => exact .singleton _
      | cons next rest => exact List.isChain_cons_cons.mpr (List.isChain_cons_cons.mp apart)
  · refine ⟨fun text' mem => ?_, List.isChain_cons_cons.mpr ⟨.inr rfl, apart⟩⟩
    rcases List.mem_cons.mp mem with same | mem
    · cases same
      exact some
    · exact nonempty text' mem

theorem canonical_of_segmentsFrom
    (cut : segmentsFrom d template offset text = .ok segments) : Canonical segments := by
  fun_induction segmentsFrom d template offset text generalizing segments with
  | case1 => obtain rfl := Except.ok.inj cut; exact canonical_nil
  | case2 => contradiction
  | case3 offset c rest more read ih =>
    obtain ⟨later, rest_cut, rfl⟩ := Except.map_eq_ok.1 cut
    exact canonical_literalCons (List.cons_ne_nil _ _) (ih rest_cut)
  | case4 offset c rest kind name more read ih =>
    obtain ⟨later, rest_cut, rfl⟩ := Except.map_eq_ok.1 cut
    exact canonical_placeholder _ (ih rest_cut)

theorem offset_of_placed {start : Nat} {before after : List Segment} {p : Placeholder}
    (placed : Placed start (before ++ .placeholder p :: after)) :
    p.offset = start + (before.flatMap Segment.source).length := by
  induction before generalizing start with
  | nil => simpa using placed.1
  | cons segment before ih =>
    cases segment with
    | literal text =>
      have later := ih (show Placed (start + text.length) _ from placed)
      simp only [List.flatMap_cons, List.length_append, Segment.source]
      omega
    | placeholder q =>
      have later := ih placed.2
      simp only [List.flatMap_cons, List.length_append, Segment.source]
      omega

/-- Segments without a placeholder are one stretch of literal text, or none. -/
theorem Canonical.eq_of_placeholders_eq_nil (canonical : Canonical segments)
    (none : placeholders segments = []) : segments = [] ∨ ∃ text, segments = [.literal text] := by
  rcases segments with _ | ⟨text | p, _ | ⟨more | p, rest⟩⟩
  · exact .inl rfl
  · exact .inr ⟨text, rfl⟩
  · have apart := (List.isChain_cons_cons.mp canonical.apart).1
    simp [Segment.isPlaceholder] at apart
  all_goals cases none

end Cutting

/-- The segments of a template, put together, are the template; every placeholder stands behind as
many characters as its offset says; no literal text is empty or next to another. In particular a
template without placeholders is at most one stretch of literal text, and rendered without
arguments it is itself. -/
theorem segments_lossless {d : Dialect} {template : String} {segments : List Segment}
    (read : Template.segments d template = .ok segments) :
    String.ofList (segments.flatMap Segment.source) = template ∧
      (∀ before p after, segments = before ++ .placeholder p :: after →
        p.offset = (before.flatMap Segment.source).length) ∧
      Canonical segments ∧
      (placeholders segments = [] → segments.length ≤ 1 ∧
        ∀ caller, Rendering.positional d (.text template) [] caller = .ok (.ok template)) := by
  have canonical := canonical_of_segmentsFrom read
  refine ⟨?_, ?_, canonical, fun none => ⟨?_, fun caller => ?_⟩⟩
  · rw [source_of_segmentsFrom read, String.ofList_toList]
  · rintro before p after rfl
    simpa using offset_of_placed (placed_of_segmentsFrom read)
  · rcases canonical.eq_of_placeholders_eq_nil none with rfl | ⟨text, rfl⟩ <;> simp
  · have matched : ¬ Rendering.Mismatched (placeholders segments) [] := by
      simp [Rendering.Mismatched, none]
    have written : List.Forall₂ (fun binding fragment =>
        Rendering.fragmentOf d binding = .ok fragment) ((placeholders segments).zip []) [] := by
      rw [none]
      exact .nil
    have named : Rendering.templateText (.text template) = .ok template := rfl
    obtain ⟨-, rendered⟩ := Rendering.positional_of_written named read matched written caller
    simpa [none, Rendering.substitute] using rendered

/-- A comment with a marker in it before a placeholder with a name, and a quoted marker alone. -/
theorem segments_lossless_named :
    Template.segments .mysql "# ?s\nSELECT ?n:t" =
        .ok [.literal "# ?s\nSELECT ".toList, .placeholder ⟨.identifier, some "t", 12⟩] ∧
      12 = "# ?s\nSELECT ".toList.length ∧
      Template.segments .mysql "SELECT '?s'" = .ok [.literal "SELECT '?s'".toList] ∧
      Rendering.positional .mysql (.text "SELECT '?s'") [] none = .ok (.ok "SELECT '?s'") := by
  have named : Template.segments .mysql "# ?s\nSELECT ?n:t" =
      .ok [.literal "# ?s\nSELECT ".toList, .placeholder ⟨.identifier, some "t", 12⟩] := by
    decide +kernel
  have quoted : Template.segments .mysql "SELECT '?s'" = .ok [.literal "SELECT '?s'".toList] := by
    decide +kernel
  obtain ⟨-, stands, -⟩ := segments_lossless named
  obtain ⟨-, -, -, plain⟩ := segments_lossless quoted
  exact ⟨named, stands [_] _ [] rfl, quoted, (plain rfl).2 none⟩

end SafeSql.Template
