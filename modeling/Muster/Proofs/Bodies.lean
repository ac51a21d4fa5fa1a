import Muster.Proofs.Encoding
import Muster.Proofs.Requests
import Muster.Service.Wire

/-!
# Bodies of requests

What the desk is asked by a request that has come whole: the head ends with the first blank line,
and what stands behind it is the body. A second blank line cuts the body off, so a body is handed on
as it is if and only if it holds no blank line itself. Method and path are those of the first line,
whatever the body.
-/

namespace Muster

namespace Text

variable {mark front cs : List Char}

/-- A mark behind a text is the first one. -/
def FirstBehind (mark front : List Char) : Prop :=
  ∀ before after, front ++ mark = before ++ mark ++ after → after = []

/-- Behind an empty text every mark is the first one. -/
theorem FirstBehind.nil : FirstBehind mark [] := by
  intro before after heq
  have hlengths := congrArg List.length heq
  simp only [List.length_append, List.length_nil] at hlengths
  exact List.eq_nil_of_length_eq_zero (by omega)

/-- A mark that is the first one behind a text is the first one behind its tail. -/
theorem FirstBehind.tail {c : Char} (h : FirstBehind mark (c :: front)) :
    FirstBehind mark front := by
  intro before after heq
  exact h (c :: before) after (by simpa using heq)

/-- A text that has its first mark behind it does not begin with the mark. -/
theorem FirstBehind.not_isPrefixOf {c : Char} (h : FirstBehind mark (c :: front))
    (more : List Char) : ¬ mark.isPrefixOf (c :: (front ++ mark ++ more)) = true := by
  rw [List.isPrefixOf_iff_prefix]
  intro hmark
  have hlength : mark.length ≤ (c :: (front ++ mark)).length := by
    rw [List.length_cons, List.length_append]
    omega
  obtain ⟨after, hafter⟩ :=
    List.prefix_of_prefix_length_le hmark (List.prefix_append _ more) hlength
  have hnil : after = [] := h [] after hafter.symm
  have hlengths := congrArg List.length hafter
  rw [hnil, List.append_nil, List.length_cons, List.length_append] at hlengths
  omega

/-- A text begins with a mark that is put in front of it. -/
theorem isPrefixOf_append (mark more : List Char) : mark.isPrefixOf (mark ++ more) = true :=
  List.isPrefixOf_iff_prefix.mpr (List.prefix_append mark more)

/-- What follows the first mark is all that was put behind it. -/
theorem after?_of_firstBehind (hmark : mark ≠ []) (h : FirstBehind mark front)
    (more : List Char) : after? mark (front ++ mark ++ more) = some more := by
  induction front with
  | nil =>
    obtain ⟨m, ms, rfl⟩ := List.exists_cons_of_ne_nil hmark
    exact (if_pos (isPrefixOf_append (m :: ms) more)).trans (congrArg some List.drop_left)
  | cons c front ih =>
    change after? mark (c :: (front ++ mark ++ more)) = some more
    rw [after?, if_neg (h.not_isPrefixOf more)]
    exact ih h.tail

/-- What precedes the first mark is all that was put in front of it. -/
theorem before_of_firstBehind (hmark : mark ≠ []) (h : FirstBehind mark front)
    (more : List Char) : before mark (front ++ mark ++ more) = front := by
  induction front with
  | nil =>
    obtain ⟨m, ms, rfl⟩ := List.exists_cons_of_ne_nil hmark
    exact if_pos (isPrefixOf_append (m :: ms) more)
  | cons c front ih =>
    change before mark (c :: (front ++ mark ++ more)) = c :: front
    rw [before, if_neg (h.not_isPrefixOf more), ih h.tail]

/-- A text stands before a mark as a whole if and only if the mark is not in it. -/
theorem before_eq_self_iff (hmark : mark ≠ []) : before mark cs = cs ↔ ¬ mark <:+: cs := by
  induction cs with
  | nil => simp [before, hmark]
  | cons c cs ih =>
    rw [before, List.infix_cons_iff, ← List.isPrefixOf_iff_prefix]
    split
    next hfront => simp [hfront]
    next hfront => simp [hfront, ih]

/-- What stands behind a mark stands behind the first one. -/
theorem exists_after?_eq_some (hmark : mark ≠ []) (front back : List Char) :
    ∃ rest, after? mark (front ++ mark ++ back) = some rest ∧ back.length ≤ rest.length := by
  induction front with
  | nil => exact ⟨back, after?_of_firstBehind hmark FirstBehind.nil back, Nat.le_refl _⟩
  | cons c front ih =>
    change ∃ rest, after? mark (c :: (front ++ mark ++ back)) = some rest ∧ _
    rw [after?]
    split
    · refine ⟨_, rfl, ?_⟩
      simp only [List.length_drop, List.length_cons, List.length_append]
      omega
    · exact ih

/-- Whether a mark is the first one can be told by looking for it. -/
theorem firstBehind_iff (hmark : mark ≠ []) :
    FirstBehind mark front ↔ after? mark (front ++ mark) = some [] := by
  constructor
  · intro h
    have hafter := after?_of_firstBehind hmark h []
    rwa [List.append_nil] at hafter
  · intro hnone before after heq
    obtain ⟨rest, hrest, hlength⟩ := exists_after?_eq_some hmark before after
    rw [← heq, hnone] at hrest
    cases hrest
    exact List.eq_nil_of_length_eq_zero (Nat.le_zero.mp hlength)

end Text

namespace Request

/-- The blank line that ends the head of a request. -/
def blankLine : List Char := ['\r', '\n', '\r', '\n']

/-- A blank line is not empty. -/
theorem blankLine_ne_nil : blankLine ≠ [] := List.cons_ne_nil _ _

/-- The body behind a head is what precedes the next blank line. -/
theorem bodyOf_of_firstBehind {head : List Char} (h : Text.FirstBehind blankLine head)
    (body : List Char) : bodyOf (head ++ blankLine ++ body) = Text.before blankLine body := by
  have hsection : section? ['\r', '\n', '\r', '\n'] (head ++ blankLine ++ body) =
      some (Text.before blankLine body) := by
    rw [section?, ← blankLine, Text.after?_of_firstBehind blankLine_ne_nil h body]
    rfl
  rw [bodyOf, hsection]

/-- The first line ends in the head. -/
theorem takeWhile_head (head body : List Char) :
    (head ++ blankLine ++ body).takeWhile (· ≠ '\n') =
      (head ++ blankLine).takeWhile (· ≠ '\n') := by
  rw [List.takeWhile_append, if_neg]
  intro hlength
  have hall : ((head ++ blankLine).takeWhile (· ≠ '\n')).all (· ≠ '\n') = true :=
    List.all_takeWhile
  rw [(List.takeWhile_prefix _).eq_of_length hlength] at hall
  simp [blankLine] at hall

/-- The method and the path of a request depend on its head only. -/
theorem exists_ofText_eq {head : List Char} (h : Text.FirstBehind blankLine head) :
    ∃ method path, ∀ body, ofText (head ++ blankLine ++ body) =
      ⟨method, path, String.ofList (Text.before blankLine body)⟩ := by
  refine ⟨(ofText (head ++ blankLine)).method, (ofText (head ++ blankLine)).path, fun body => ?_⟩
  rw [ofText, takeWhile_head, bodyOf_of_firstBehind h, ofText]

end Request

namespace Desk

/-- What is read of a text is what was written. -/
theorem answer_utf8 (read : Json.Reader) (d : Desk) (now : Nat) (newId : String)
    {text : List Char} (h : text ≠ []) :
    d.answer read now newId (Text.utf8 text) =
      d.handle read now newId (Request.ofText text) := by
  have hread := Text.readUtf8_utf8 text
  cases hbytes : Text.utf8 text with
  | nil =>
    rw [hbytes] at hread
    exact absurd hread.symm h
  | cons b bytes =>
    rw [hbytes] at hread
    rw [answer, hread]
    exact List.cons_ne_nil b bytes

/-- The body of a request that one read takes in is handed on up to its first blank line, so as a
whole if and only if it holds none. -/
theorem answer_body_iff {head : List Char} (hhead : Text.FirstBehind Request.blankLine head) :
    ∃ method path, ∀ (read : Json.Reader) (d : Desk) (now : Nat) (newId : String)
        (body : List Char), ∃ passed,
      Request.ofText (Text.readUtf8 (Text.utf8 (head ++ Request.blankLine ++ body))) =
        ⟨method, path, String.ofList passed⟩ ∧
      d.answer read now newId (Text.utf8 (head ++ Request.blankLine ++ body)) =
        d.handle read now newId ⟨method, path, String.ofList passed⟩ ∧
      (passed = body ↔ ¬ Request.blankLine <:+: body) ∧
      ∀ front back, Text.FirstBehind Request.blankLine front →
        body = front ++ Request.blankLine ++ back → passed = front := by
  obtain ⟨method, path, htext⟩ := Request.exists_ofText_eq hhead
  refine ⟨method, path, fun read d now newId body =>
    ⟨Text.before Request.blankLine body, ?_, ?_, ?_, ?_⟩⟩
  · rw [Text.readUtf8_utf8, htext body]
  · have hne : head ++ Request.blankLine ++ body ≠ [] := by simp [Request.blankLine]
    rw [answer_utf8 read d now newId hne, htext body]
  · exact Text.before_eq_self_iff Request.blankLine_ne_nil
  · rintro front back hfront rfl
    exact Text.before_of_firstBehind Request.blankLine_ne_nil hfront back

/-- A body with an empty line of another kind is handed on as a whole. -/
theorem answer_body_opening :
    let head := "POST /api/units HTTP/1.1".toList
    let body := "[\"Troops\",\n\n\"Guards\"]".toList
    Text.FirstBehind Request.blankLine head ∧ ¬ Request.blankLine <:+: body ∧
      ∃ method path, ∀ (read : Json.Reader) (d : Desk) (now : Nat) (newId : String),
        d.answer read now newId (Text.utf8 (head ++ Request.blankLine ++ body)) =
          d.handle read now newId ⟨method, path, String.ofList body⟩ := by
  intro head body
  have hhead : Text.FirstBehind Request.blankLine head :=
    (Text.firstBehind_iff Request.blankLine_ne_nil).mpr (by decide +kernel)
  have hbody : ¬ Request.blankLine <:+: body := by decide +kernel
  obtain ⟨method, path, hanswer⟩ := answer_body_iff hhead
  refine ⟨hhead, hbody, method, path, fun read d now newId => ?_⟩
  obtain ⟨passed, -, heq, hwhole, -⟩ := hanswer read d now newId body
  rw [heq, hwhole.mpr hbody]

/-- A squad is not opened if there is a blank line inside the body that asks for it: the desk sees
what stands before that line, and refuses it. -/
theorem answer_blankLine_in_body :
    let d := Guards.desk (Guards.codex ["Axe"]) []
    let whole := "\x7b\"role\": \"Troops\",\r\n\r\n\"unit\": \"Guards\"\x7d"
    let sent := "POST /api/units HTTP/1.1".toList ++ Request.blankLine ++ whole.toList
    Request.ofText (Text.readUtf8 (Text.utf8 sent)) =
        ⟨"POST", "/api/units", "\x7b\"role\": \"Troops\","⟩ ∧
      (d.answer Json.read? 0 "a" (Text.utf8 sent)).2.map (·.status.code) = some 400 ∧
      (d.handle Json.read? 0 "a" ⟨"POST", "/api/units", whole⟩).2.map (·.status.code) =
        some 201 := by
  intro d whole sent
  have htext : Request.ofText sent = ⟨"POST", "/api/units", "\x7b\"role\": \"Troops\","⟩ := by
    decide +kernel
  have hsent : sent ≠ [] := by simp [sent, Request.blankLine]
  rw [answer_utf8 Json.read? d 0 "a" hsent, Text.readUtf8_utf8, htext]
  exact ⟨rfl, by decide +kernel, by decide +kernel⟩

end Desk

end Muster
