import CredentialHelper.Proofs.EncodedText
import CredentialHelper.Proofs.JsonReadable
import CredentialHelper.Proofs.RevokedGrant

/-!
# The bodies of refusals

A refusal is classified by the object that its body is, and it does not matter whether the body is
that object, a document of it or the bytes of such a document (`classify_of_carries`).  Only a
document that is nested too deeply is not classified at all.
-/

namespace CredentialHelper

/-! ## Documents of objects -/

namespace Json

open Reader Detection

theorem isAscii_of_isSpace {c : Char} (h : isSpace (.char c) = true) : IsAscii c := by
  simp only [isSpace, Bool.or_eq_true, beq_iff_eq, Symbol.char.injEq] at h
  obtain ((rfl | rfl) | rfl) | rfl := h <;> exact ⟨by decide, by decide⟩

theorem Blanks.head {cs : List Char} (h : Blanks cs) {c : Char} (hc : IsAscii c)
    (rest : List Char) : ∃ b rest', cs ++ c :: rest = b :: rest' ∧ IsAscii b := by
  cases cs with
  | nil => exact ⟨c, rest, rfl, hc⟩
  | cons b cs => exact ⟨b, _, rfl, isAscii_of_isSpace (h b (List.mem_cons_self ..))⟩

theorem Spells.start_object {depth : Nat} {members : Members} {cs : List Char}
    (h : Spells depth (.object members) cs) :
    ∃ b rest, cs = '\x7b' :: b :: rest ∧ IsAscii b := by
  have hquote : IsAscii '"' := ⟨by decide, by decide⟩
  have hbrace : IsAscii '\x7d' := ⟨by decide, by decide⟩
  cases h with
  | @object _ fields closing hdepth hclosing hkeys h =>
    cases fields with
    | nil =>
      obtain ⟨b, rest, heq, hb⟩ := hclosing.head hbrace []
      exact ⟨b, rest, congrArg _ heq, hb⟩
    | cons f more =>
      obtain ⟨cs, hcs⟩ := exists_intercalate_cons f.whole (more.map (·.whole))
      rw [List.map_cons, hcs]
      simp only [Field.whole, List.cons_append, List.append_assoc]
      obtain ⟨b, rest, heq, hb⟩ := f.blanks_lead.head hquote _
      exact ⟨b, rest, congrArg _ heq, hb⟩

theorem Document.startsAscii {members : Members} {cs : List Char}
    (h : Document (.object members) cs) : StartsAscii cs := by
  have hbrace : IsAscii '\x7b' := ⟨by decide, by decide⟩
  generalize hvalue : Json.object members = v at h
  obtain ⟨p, h⟩ := h
  obtain ⟨b, rest, htext, hb⟩ := (hvalue ▸ h).start_object
  rw [Part.whole, htext]
  have hbefore := p.blanks_before
  generalize p.before = before at hbefore ⊢
  cases before with
  | nil => exact ⟨_, _, _, rfl, hbrace, hb⟩
  | cons c cs =>
    have hc := isAscii_of_isSpace (hbefore c (List.mem_cons_self ..))
    have htail : Blanks cs := fun c hc => hbefore c (List.mem_cons_of_mem _ hc)
    obtain ⟨d, rest', heq, hd⟩ := htail.head hbrace (b :: rest ++ p.after)
    rw [List.cons_append, List.cons_append, List.append_assoc]
    exact ⟨c, d, rest', congrArg _ heq, hc, hd⟩

inductive NamesPairs : List (Text × Json) → List Char → Prop
  | mk {fields : List Field} {before closing after : List Char} (hbefore : Blanks before)
      (hclosing : Blanks closing) (hafter : Blanks after) (hkeys : ∀ f ∈ fields, Joined f.key)
      (h : ∀ f ∈ fields, Spells 1 f.value f.text) :
    NamesPairs (fields.map (·.pair))
      (before ++ ('\x7b' :: [','].intercalate (fields.map (·.whole)) ++ closing ++ ['\x7d']) ++
        after)

theorem NamesPairs.document {pairs : List (Text × Json)} {cs : List Char}
    (h : NamesPairs pairs cs) : Document (.object (Members.ofPairs pairs)) cs := by
  obtain ⟨hbefore, hclosing, hafter, hkeys, h⟩ := h
  exact .mk ⟨_, _, _, _, hbefore, hafter⟩ (.object (by decide) hclosing hkeys h)

end Json

namespace Refusal

open Json

/-! ## Bodies that carry a document -/

/-- The bodies that carry a document: its text, and its bytes in every encoding form. -/
inductive Carries (cs : List Char) : Argument → Prop
  | text : Carries cs (.data (.string (cs.map .char)))
  | bytes (form : EncodingForm) : Carries cs (.bytes (form.encode cs))
  | marked (form : EncodingForm) : Carries cs (.bytes (form.mark ++ form.encode cs))

theorem ofText_of_document {members : Members} {cs : List Char}
    (h : Document (.object members) cs) : ofText (cs.map .char) = .ok (some members) := by
  rw [ofText, h.parse]

theorem decode_of_carries {members : Members} {cs : List Char} {body : Argument}
    (h : Document (.object members) cs) (hbody : Carries cs body) :
    decode body = .ok (some members) := by
  cases hbody with
  | text => exact ofText_of_document h
  | bytes form =>
    rw [decode, Detection.decode_encode form h.startsAscii]
    exact ofText_of_document h
  | marked form =>
    rw [decode, Detection.decode_mark_encode form h.startsAscii]
    exact ofText_of_document h

theorem classify_of_carries {members : Members} {cs : List Char} {body : Argument}
    (h : Document (.object members) cs) (hbody : Carries cs body) (message : Text)
    (cause : Failure) (fallback : ErrorKind) :
    classify message body cause fallback =
      classify message (.data (.object members)) cause fallback := by
  rw [classify, decode_of_carries h hbody, classify, decode]

/-! ## Bodies that are nested too deeply -/

theorem value_brackets {n fuel depth : Nat} (hdepth : maxDepth ≤ depth + n)
    (hfuel : 2 * n + 1 ≤ fuel) :
    Reader.value fuel depth (List.replicate (n + 1) (.char '[')) = .error (.tooDeep true) := by
  induction n generalizing fuel depth with
  | zero =>
    obtain ⟨fuel, rfl⟩ := Nat.exists_eq_add_one_of_ne_zero (Nat.ne_zero_of_lt hfuel)
    rw [List.replicate_succ, Reader.value, if_pos (show maxDepth ≤ depth from hdepth)]
  | succ n ih =>
    obtain ⟨fuel, rfl⟩ : ∃ m, fuel = m + 2 := ⟨fuel - 2, by omega⟩
    rw [List.replicate_succ]
    by_cases hdeep : maxDepth ≤ depth
    · rw [Reader.value, if_pos hdeep]
    · have hskip : Reader.skipSpace (List.replicate (n + 1) (.char '[')) =
          .char '[' :: List.replicate n (.char '[') := skipSpace_cons (by decide) _
      rw [value_of_items (Nat.lt_of_not_le hdeep) hskip (by decide), hskip, ← List.replicate_succ,
        Reader.items, ih (by omega) (by omega)]

/-- More opening brackets than may stand around a value are nested too deeply. -/
theorem parse_brackets {n : Nat} (h : maxDepth ≤ n) :
    parse (List.replicate (n + 1) (.char '[')) = .error (.tooDeep true) := by
  have hskip : Reader.skipSpace (List.replicate (n + 1) (.char '[')) =
      List.replicate (n + 1) (.char '[') := skipSpace_cons (by decide) _
  have hdocument : Reader.document (List.replicate (n + 1) (.char '[')) =
      .error (.tooDeep true) := by
    rw [Reader.document.eq_def]
    split
    · next heq => cases heq
    · rw [hskip, value_brackets (by omega) (by rw [List.length_replicate]; omega)]
  rw [parse, hdocument]

/-- A body whose document has an array, or else an object, inside too many others. -/
inductive TooDeep : Argument → Bool → Prop
  | text {t : Text} {isArray : Bool} (h : parse t = .error (.tooDeep isArray)) :
    TooDeep (.data (.string t)) isArray
  | bytes {bs : Bytes} {t : Text} {isArray : Bool} (ht : Detection.decode bs = .ok t)
      (h : parse t = .error (.tooDeep isArray)) : TooDeep (.bytes bs) isArray

theorem ofText_eq_error_iff {t : Text} {c : Cause} :
    ofText t = .error c ↔
      ∃ isArray, c = .document (.tooDeep isArray) ∧ parse t = .error (.tooDeep isArray) := by
  rw [ofText]
  cases parse t with
  | ok v => cases v <;> simp
  | error e => cases e <;> simp [eq_comm]

/-- Only nesting without bound keeps a body from being decoded. -/
theorem decode_eq_error_iff {body : Argument} {c : Cause} :
    decode body = .error c ↔
      ∃ isArray, c = .document (.tooDeep isArray) ∧ TooDeep body isArray := by
  constructor
  · intro h
    rw [decode.eq_def] at h
    split at h
    · cases h
    · obtain ⟨isArray, rfl, hparse⟩ := ofText_eq_error_iff.1 h
      exact ⟨isArray, rfl, .text hparse⟩
    · cases h
    · split at h
      · next ht =>
        obtain ⟨isArray, rfl, hparse⟩ := ofText_eq_error_iff.1 h
        exact ⟨isArray, rfl, .bytes ht hparse⟩
      · cases h
  · rintro ⟨isArray, rfl, hdeep⟩
    cases hdeep with
    | text h => exact ofText_eq_error_iff.2 ⟨isArray, rfl, h⟩
    | bytes ht h =>
      rw [decode, ht]
      exact ofText_eq_error_iff.2 ⟨isArray, rfl, h⟩

def refused (fallback : ErrorKind) (message : Text) (response : Members) (cause : Failure) :
    HelperError :=
  .because ⟨fallback, message, [], [(Text.ofString "response", .object response)]⟩ cause

def verdict (message : Text) (cause : Failure) (fallback : ErrorKind) :
    Option Members → HelperError
  | some members =>
    if isRevoked members then revoked message cause else refused fallback message members cause
  | none => refused fallback message [] cause

theorem classify_eq_map (message : Text) (body : Argument) (cause : Failure)
    (fallback : ErrorKind) :
    classify message body cause fallback = (decode body).map (verdict message cause fallback) := by
  rw [classify]
  cases decode body with
  | error c => rfl
  | ok decoded =>
    cases decoded with
    | none => rfl
    | some members =>
      simp only [bind, Except.bind, Except.map, verdict]
      split <;> rfl

inductive Classified (message : Text) (body : Argument) (cause : Failure) (fallback : ErrorKind) :
    Except Cause HelperError → Prop
  | revoked {members : Members} (h : decode body = .ok (some members))
      (hpair : HasRevokedPair members) :
    Classified message body cause fallback (.ok (revoked message cause))
  | refused {members : Members} (h : decode body = .ok (some members))
      (hpair : ¬HasRevokedPair members) :
    Classified message body cause fallback (.ok (refused fallback message members cause))
  | unreadable (h : decode body = .ok none) :
    Classified message body cause fallback (.ok (refused fallback message [] cause))
  | tooDeep {isArray : Bool} (h : TooDeep body isArray) :
    Classified message body cause fallback (.error (.document (.tooDeep isArray)))

theorem verdict_of_pair {members : Members} (h : HasRevokedPair members) (message : Text)
    (cause : Failure) (fallback : ErrorKind) :
    verdict message cause fallback (some members) = revoked message cause := by
  rw [verdict, if_pos (isRevoked_iff.2 h)]

theorem verdict_of_not_pair {members : Members} (h : ¬HasRevokedPair members) (message : Text)
    (cause : Failure) (fallback : ErrorKind) :
    verdict message cause fallback (some members) = refused fallback message members cause := by
  rw [verdict, if_neg fun hrevoked => h (isRevoked_iff.1 hrevoked)]

theorem classified (message : Text) (body : Argument) (cause : Failure) (fallback : ErrorKind) :
    Classified message body cause fallback (classify message body cause fallback) := by
  rw [classify_eq_map]
  cases h : decode body with
  | error c =>
    obtain ⟨isArray, rfl, hdeep⟩ := decode_eq_error_iff.1 h
    exact .tooDeep hdeep
  | ok decoded =>
    cases decoded with
    | none => exact .unreadable h
    | some members =>
      rw [Except.map]
      by_cases hpair : HasRevokedPair members
      · rw [verdict_of_pair hpair]
        exact .revoked h hpair
      · rw [verdict_of_not_pair hpair]
        exact .refused h hpair

/-- Only the pair of codes makes a refusal that of a revoked grant. -/
theorem classify_eq_revoked_iff (message : Text) (body : Argument) (cause : Failure)
    {fallback : ErrorKind} (hfallback : fallback.isRevokedGrant = false) :
    classify message body cause fallback = .ok (revoked message cause) ↔
      ∃ members, decode body = .ok (some members) ∧ HasRevokedPair members := by
  constructor
  · intro h
    exact (revokes_classify message body cause hfallback).1
      ⟨_, h, by rw [revoked, kind_because]; rfl⟩
  · rintro ⟨members, hmembers, hpair⟩
    rw [classify_eq_map, hmembers, Except.map, verdict_of_pair hpair]

/-- A refusal is classified by the pair of codes alone, whatever carries the object that it is. -/
theorem classifies_exactly {fallback : ErrorKind} (hfallback : fallback.isRevokedGrant = false)
    (message : Text) (cause : Failure) :
    (∀ body, (classify message body cause fallback = .ok (revoked message cause) ↔
        ∃ members, decode body = .ok (some members) ∧ HasRevokedPair members) ∧
      Classified message body cause fallback (classify message body cause fallback)) ∧
    (∀ members cs body, Document (.object members) cs → Carries cs body →
      classify message body cause fallback =
        classify message (.data (.object members)) cause fallback) ∧
    (∀ members layout, Readable 0 (.object members) → FloatFree (.object members) →
      Document (.object members) (Writer.value layout 0 (.object members))) ∧
    (∀ pairs cs, NamesPairs pairs cs → Document (.object (Members.ofPairs pairs)) cs ∧
      ∀ key, (Members.ofPairs pairs).get? key = Members.get? key pairs.reverse) := by
  refine ⟨fun body => ⟨?_, classified message body cause fallback⟩, ?_, ?_, ?_⟩
  · exact classify_eq_revoked_iff message body cause hfallback
  · intro members cs body hdocument hbody
    exact classify_of_carries hdocument hbody message cause fallback
  · intro members layout hreadable hfree
    have hdocument := hreadable.document layout
    rwa [hfree.reread] at hdocument
  · intro pairs cs hpairs
    exact ⟨hpairs.document, fun key => Members.get?_ofPairs key pairs⟩

def revokedRefusal : List (String × Json) :=
  [("error", .ofString "invalid_grant"), ("error_subtype", .ofString "invalid_rapt")]

theorem readable_revokedRefusal : Readable 0 (Json.ofMembers revokedRefusal) := by
  refine readable_ofMembers (by decide) (by decide) fun p hp => ?_
  rcases List.mem_cons.1 hp with rfl | hp
  · exact .string (joined_ofString _)
  · rw [List.mem_singleton.1 hp]
    exact .string (joined_ofString _)

theorem floatFree_revokedRefusal : FloatFree (Json.ofMembers revokedRefusal) := by
  refine floatFree_ofMembers fun p hp => ?_
  rcases List.mem_cons.1 hp with rfl | hp
  · exact .string _
  · rw [List.mem_singleton.1 hp]
    exact .string _

/-- A revoked grant is known by its bytes in UTF-16 behind a byte order mark. -/
theorem classifies_exactly_utf16 :
    ErrorKind.tokenRefresh.isRevokedGrant = false ∧
      classify "refresh failed" (.bytes ((EncodingForm.utf16 false).mark ++
          (EncodingForm.utf16 false).encode
            (Writer.value .line 0 (Json.ofMembers revokedRefusal)))) (.foreign .noHome)
          .tokenRefresh =
        .ok (revoked "refresh failed" (.foreign .noHome)) := by
  obtain ⟨hrevoked, hcarries, hwritten, -⟩ :=
    classifies_exactly (show ErrorKind.tokenRefresh.isRevokedGrant = false from rfl)
      "refresh failed" (.foreign .noHome)
  refine ⟨rfl, ?_⟩
  have hdocument := hwritten _ .line readable_revokedRefusal floatFree_revokedRefusal
  have hmarked := hcarries _ _ _ hdocument (.marked (.utf16 false))
  exact hmarked.trans ((hrevoked _).1.2 ⟨_, rfl, isRevoked_iff.1 (by decide)⟩)

/-- A text of brackets alone is not classified. -/
theorem classify_brackets :
    classify "refresh failed" (.data (.string (List.replicate 100000 (.char '['))))
      (.foreign .noHome) .tokenRefresh = .error (.document (.tooDeep true)) := by
  have hdeep : TooDeep (.data (.string (List.replicate 100000 (.char '[')))) true :=
    .text (parse_brackets (by decide))
  rw [classify_eq_map, decode_eq_error_iff.2 ⟨true, rfl, hdeep⟩]
  rfl

end Refusal

end CredentialHelper
