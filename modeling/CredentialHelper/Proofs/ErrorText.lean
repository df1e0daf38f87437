import CredentialHelper.Failure.Error
import Mathlib.Data.List.Infix
import Mathlib.Logic.ExistsUnique

/-!
# The text of an error

The text that the user sees is the program's name and the texts of all levels of an error, with the
text of the failure from outside behind them.  Wrapping an error puts one more text in front of the
others and leaves the program's name where it is (`HelperError.message_texts`).
-/

namespace CredentialHelper

namespace HelperError

def levels : HelperError → List ErrorEntry
  | .root entry _ => [entry]
  | .wrap entry cause => entry :: cause.levels

def origin : HelperError → Option Cause
  | .root _ cause => cause
  | .wrap _ cause => cause.origin

/-- The messages of all levels, and the one of the failure from outside. -/
def texts (e : HelperError) : List Text :=
  e.levels.map (·.message) ++ e.origin.toList.map (·.message)

theorem texts_ne_nil (e : HelperError) : e.texts ≠ [] := by
  cases e <;> exact List.cons_ne_nil _ _

theorem detail_eq_join (e : HelperError) : e.detail = Text.join ": " e.texts := by
  induction e with
  | root entry cause =>
    cases cause with
    | none => exact List.intercalate_singleton.symm
    | some cause =>
      show entry.message ++ ": " ++ cause.message = Text.join ": " [entry.message, cause.message]
      rw [Text.join, List.intercalate_cons_cons, List.intercalate_singleton]
  | wrap entry e ih =>
    obtain ⟨first, rest, htexts⟩ := List.exists_cons_of_ne_nil e.texts_ne_nil
    show entry.message ++ ": " ++ e.detail = Text.join ": " (entry.message :: e.texts)
    rw [ih, htexts, Text.join, Text.join, List.intercalate_cons_cons]

/-! ## Where the name of the program stands -/

/-- What stands in front of the texts. -/
def lead : Text := announcement ++ ": "

theorem message_eq (e : HelperError) : e.message = lead ++ e.detail := rfl

theorem lead_not_before {s : Symbol} (hs : s ≠ .char 'd') (t : Text) : ¬lead <+: s :: t := by
  intro h
  exact hs (List.cons_prefix_cons.1 h).1.symm

/-- The lead stands in a text with more texts behind it if it stands in one of them, or if the text
ends in the name of the program, which the separator completes. -/
theorem lead_infix_append_iff {t rest : Text} :
    lead <:+: t ++ ": " ++ rest ↔
      lead <:+: t ∨ Text.ofString announcement <:+ t ∨ lead <:+: rest := by
  rw [List.append_assoc]
  constructor
  · intro h
    rcases List.infix_append_iff.1 h with h | h | ⟨front, back, hlead, hfront, hback⟩
    · exact .inl h
    · have hcolon := (List.infix_cons_iff.1 h).resolve_left (lead_not_before (by decide) _)
      exact .inr (.inr ((List.infix_cons_iff.1 hcolon).resolve_left
        (lead_not_before (by decide) _)))
    · cases back with
      | nil =>
        rw [List.append_nil] at hlead
        exact .inl (hlead ▸ hfront.isInfix)
      | cons s back =>
        have hcolon : s = .char ':' := (List.cons_prefix_cons.1 hback).1
        rw [hcolon] at hlead
        have hname : Text.ofString announcement ++ .char ':' :: [.char ' '] =
            front ++ .char ':' :: back := hlead
        rw [List.append_cons_inj_of_notMem (by decide) (by decide)] at hname
        exact .inr (.inl (hname.1 ▸ hfront))
  · rintro (h | ⟨front, rfl⟩ | h)
    · exact h.trans (List.infix_append' [] _ _)
    · exact ⟨front, rest, by simp [lead]⟩
    · exact h.trans ((List.suffix_append _ _).trans (List.suffix_append _ _)).isInfix

theorem lead_infix_join_iff (texts : List Text) :
    lead <:+: Text.join ": " texts ↔
      (∃ t ∈ texts, lead <:+: t) ∨ ∃ t ∈ texts.dropLast, Text.ofString announcement <:+ t := by
  induction texts with
  | nil =>
    have hne : lead ≠ [] := by decide
    simp [Text.join, hne]
  | cons t rest ih =>
    cases rest with
    | nil => simp [Text.join]
    | cons next rest =>
      rw [Text.join, List.intercalate_cons_cons, lead_infix_append_iff, ← Text.join, ih,
        List.dropLast_cons_cons]
      simp only [List.exists_mem_cons_iff, or_assoc, or_left_comm]

/-- In an error the lead stands at the beginning, and anywhere else only if it stands in what
follows it: its end is a blank, and it has no other. -/
theorem lead_prefix_iff {front t : Text} (h : front ++ lead <+: lead ++ t) :
    front = [] ∨ lead <:+: t := by
  obtain ⟨rest, hrest⟩ := h
  rw [List.append_assoc] at hrest
  rcases List.append_eq_append_iff.1 hrest with ⟨back, hlead, hback⟩ | ⟨between, -, ht⟩
  · by_cases hback' : back = []
    · rw [hback', List.nil_append] at hback
      exact .inr ⟨[], rest, hback⟩
    · refine .inl (Classical.byContradiction fun hnil => ?_)
      have hblank : .char ' ' ∈ back := by
        have hlast : lead.getLast? = some (.char ' ') := by decide
        rw [hlead, List.getLast?_append_of_ne_nil _ hback'] at hlast
        exact List.mem_of_getLast? hlast
      have hshort : back.length ≤ lead.dropLast.length := by
        have := List.length_pos_of_ne_nil hnil
        rw [List.length_dropLast, hlead, List.length_append]
        omega
      have hcommon : back <+: lead.dropLast :=
        List.prefix_of_prefix_length_le ⟨t, hback.symm⟩
          ((List.dropLast_prefix lead).trans (List.prefix_append lead rest)) hshort
      exact absurd (hcommon.subset hblank) (by decide)
  · exact .inr ⟨between, rest, by rw [ht, List.append_assoc]⟩

/-- The lead stands in an error exactly once if it does not stand in what follows it. -/
theorem existsUnique_lead_iff (t : Text) :
    (∃! front, front ++ lead <+: lead ++ t) ↔ ¬lead <:+: t := by
  constructor
  · rintro ⟨front, -, hunique⟩ ⟨before, behind, ht⟩
    have hfirst : [] = front := hunique [] (List.prefix_append lead t)
    have hsecond : lead ++ before = front := hunique _ ⟨behind, by simp [← ht]⟩
    rw [← hfirst, List.append_eq_nil_iff] at hsecond
    exact absurd hsecond.1 (by decide)
  · intro h
    exact ⟨[], List.prefix_append lead t,
      fun front hfront => (lead_prefix_iff hfront).resolve_right h⟩

/-- The text of an error is the lead and the texts of its levels and of the failure from outside.
The lead stands there exactly once if none of these texts holds it and only the last one ends in the
name of the program, however many levels there are.  One more level puts its message behind the lead
and leaves everything else as it is. -/
theorem message_texts (e : HelperError) :
    e.detail = Text.join ": " e.texts ∧ e.message = lead ++ e.detail ∧
      e.arguments[0]? = some e.message ∧
      ((∃! front, front ++ lead <+: e.message) ↔
        (∀ t ∈ e.texts, ¬lead <:+: t) ∧
          ∀ t ∈ e.texts.dropLast, ¬Text.ofString announcement <:+ t) ∧
      ∀ outer, (because outer (.helper e)).message = lead ++ outer.message ++ ": " ++ e.detail := by
  refine ⟨e.detail_eq_join, rfl, rfl, ?_, fun outer => ?_⟩
  · rw [message_eq, existsUnique_lead_iff, detail_eq_join, lead_infix_join_iff]
    push Not
    rfl
  · rw [message_eq, detail_because]
    simp only [List.append_assoc]

/-- A text that ends in the name of the program has the lead in it as soon as another one follows,
even if neither holds it. -/
theorem lead_twice :
    let e := root ⟨.tokenRetrieval, "docker-credential-gcr/helper", [], []⟩ (some (.argument "x"))
    (∀ t ∈ e.texts, ¬lead <:+: t) ∧ ¬∃! front, front ++ lead <+: e.message := by
  refine ⟨by decide, fun h => ?_⟩
  rw [message_eq, existsUnique_lead_iff] at h
  exact h (by decide)

end HelperError

end CredentialHelper
