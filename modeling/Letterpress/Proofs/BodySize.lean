import Letterpress.Proofs.Basic
import Letterpress.Proofs.Server.Outbox

/-! Bodies that are too long. A request is refused because of the size of its body where the body is longer than the limit that
is set, and also where it is longer than two mebibytes, whatever is set. -/
namespace Letterpress.Server

/-- What is wrong with a body that turns out to be too long as it is read. -/
def tooLong : Problem := .validation "Failed to buffer the request body: length limit exceeded"

/-- The request was refused because of the size of its body: by the length that it states, or as the body was read. -/
def Response.RefusesSize (response : Response) : Prop :=
  response.status = 413 ∧ response.body = .text "length limit exceeded" ∨
    response.status = 400 ∧ ∃ production, response.body = (tooLong.response production).body

/-- If the request states how long its body is, then the body is that long. -/
def Request.IsTruthful (r : Request) : Prop := ∀ n, App.statedLength? r = some n → n = r.body.utf8ByteSize

namespace Problem

/-- The body of a response tells what kind of problem it is about, and what was said of it. -/
theorem eq_of_response_body {p q : Problem} {production production' : Bool}
    (same : (p.response production).body = (q.response production').body) :
    p.code = q.code ∧ p.clientText production = q.clientText production' := by
  have told (p : Problem) (production : Bool) : ∃ value, (p.response production).body = .json value ∧
      (value.get? "err").bind (·.get? "code") = some (.string p.code) ∧
      value.get? "message" = some (.string (p.clientText production)) := by
    refine ⟨_,rfl,?_⟩
    cases p.data? with
    | none => simp [Json.mk,Json.get?,Keyed.ofList,Keyed.insertAll,Keyed.lookup?_insert]
    | some data => simp [Json.mk,Json.get?,Keyed.ofList,Keyed.insertAll,Keyed.lookup?_insert]
  obtain ⟨value,body,code,message⟩ := told p production
  obtain ⟨value',body',code',message'⟩ := told q production'
  have values : value = value' := by simpa [body,body'] using same
  rw [values] at code message
  exact ⟨by simpa using code.symm.trans code',by simpa using message.symm.trans message'⟩

private theorem eq_validation_of_code {p : Problem} (code : p.code = "VALIDATION_ERROR") :
    ∃ reason, p = .validation reason := by
  cases p with
  | validation reason => exact ⟨reason,rfl⟩
  | render e => cases e <;> simp [Problem.code] at code
  | transport e => cases e <;> simp [Problem.code] at code
  | _ => simp [Problem.code] at code

private theorem refusesSize_response_iff {p : Problem} {production : Bool} :
    (p.response production).RefusesSize ↔ p = tooLong := by
  constructor
  · rintro (⟨_,text⟩ | ⟨_,production',body⟩)
    · cases text
    · obtain ⟨code,text⟩ := eq_of_response_body body
      obtain ⟨reason,rfl⟩ := eq_validation_of_code code
      have reasons : reason = "Failed to buffer the request body: length limit exceeded" := by
        cases production <;> cases production' <;> exact text
      rw [reasons,tooLong]
  · rintro rfl
    exact .inr ⟨rfl,production,rfl⟩

private theorem validation_ne_tooLong (opening rest : String)
    (other : ¬ opening.toList <+: "Failed to buffer the request body: length limit exceeded".toList) :
    Problem.validation (opening ++ rest) ≠ tooLong := by
  intro same
  have whole := congrArg String.toList (Problem.validation.inj same)
  rw [String.toList_append] at whole
  exact other ⟨rest.toList,whole⟩

private theorem ofSendError_ne_tooLong (e : SendError) : ofSendError e ≠ tooLong := by
  cases e <;> exact Problem.noConfusion

end Problem

private theorem not_refusesSize_of_ok {response : Response} (ok : response.status = 200) : ¬ response.RefusesSize := by
  rintro (⟨status,_⟩ | ⟨status,_⟩) <;> omega

private theorem bodyProblem_ne_tooLong (m : Json.Misfit) : bodyProblem m ≠ tooLong := by
  unfold bodyProblem
  split
  · exact Problem.validation_ne_tooLong _ _ (by decide)
  · exact Problem.validation_ne_tooLong _ _ (by decide)

private theorem fieldText_ne_tooLong (key : String) (value : Json) : fieldText key value ≠ .error tooLong := by
  have nested : fieldText key (.array []) ≠ .error tooLong := by
    have other := Problem.validation_ne_tooLong "form field `" (key ++ "` must be a string, number or boolean") (by decide)
    simpa [fieldText,String.append_assoc] using other
  cases value with
  | array _ => exact nested
  | object _ => exact nested
  | _ => exact (nomatch ·)

private theorem fieldTexts_ne_tooLong (fields : List (String × Json)) : fieldTexts fields ≠ .error tooLong := by
  induction fields with
  | nil => exact (nomatch ·)
  | cons field rest ih =>
    intro failed
    rw [fieldTexts] at failed
    rcases cases_of_bind_error failed with first | ⟨text,_,failed⟩
    · exact fieldText_ne_tooLong field.1 field.2 first
    · rcases cases_of_bind_error failed with others | ⟨texts,_,failed⟩
      · exact ih others
      · cases failed

private theorem request_ne_tooLong (c : Composition) : c.request ≠ .error tooLong := by
  intro failed
  rw [Composition.request] at failed
  rcases cases_of_bind_error failed with texts | ⟨fields,_,failed⟩
  · exact fieldTexts_ne_tooLong c.form.fields texts
  · cases failed

private theorem readBody_eq_tooLong_iff {α : Type} (reader : Json.Reader α) (allowance : Nat) {r : Request}
    (json : saysJson r = true) :
    readBody reader allowance r = .error tooLong ↔ min allowance greatestBody < r.body.utf8ByteSize := by
  rw [readBody,json]
  split
  next impossible => exact absurd impossible (by decide)
  next =>
    split
    next long => exact ⟨fun _ => long,fun _ => rfl⟩
    next short =>
      refine ⟨fun failed => ?_,fun long => absurd long short⟩
      cases text : Json.Reader.ofText reader r.body with
      | error m =>
        rw [text] at failed
        exact absurd (Except.error.inj failed) (bodyProblem_ne_tooLong m)
      | ok value =>
        rw [text] at failed
        cases failed

namespace App

private theorem readComposition_eq_tooLong_iff (allowance : Nat) {r : Request} (json : saysJson r = true) :
    readComposition allowance r = .error tooLong ↔ min allowance greatestBody < r.body.utf8ByteSize := by
  rw [← readBody_eq_tooLong_iff Composition.reader allowance json,readComposition]
  constructor
  · intro failed
    rcases cases_of_bind_error failed with unread | ⟨composition,_,failed⟩
    · exact unread
    · rcases cases_of_bind_error failed with unasked | ⟨request,_,failed⟩
      · exact absurd unasked (request_ne_tooLong composition)
      · cases failed
  · intro unread
    rw [unread]
    rfl

private theorem refusesSize_preview_iff (app : App) (allowance : Nat) {r : Request} (json : saysJson r = true) :
    (app.preview allowance r).1.RefusesSize ↔ min allowance greatestBody < r.body.utf8ByteSize := by
  rw [← readComposition_eq_tooLong_iff allowance json,preview]
  cases readComposition allowance r with
  | error p => exact Problem.refusesSize_response_iff.trans ⟨congrArg _,Except.error.inj⟩
  | ok read =>
    refine iff_of_false ?_ (fun impossible => by cases impossible)
    dsimp only
    split
    next => exact not_refusesSize_of_ok rfl
    next => exact Problem.refusesSize_response_iff.not.mpr Problem.noConfusion

private theorem refusesSize_send_iff (app : App) (allowance : Nat) {r : Request} (json : saysJson r = true) :
    (app.send allowance r).1.RefusesSize ↔ min allowance greatestBody < r.body.utf8ByteSize := by
  rw [← readComposition_eq_tooLong_iff allowance json,send]
  cases readComposition allowance r with
  | error p => exact Problem.refusesSize_response_iff.trans ⟨congrArg _,Except.error.inj⟩
  | ok read =>
    refine iff_of_false ?_ (fun impossible => by cases impossible)
    dsimp only
    split
    next => exact Problem.refusesSize_response_iff.not.mpr Problem.noConfusion
    next =>
      split
      next => exact not_refusesSize_of_ok rfl
      next e _ => exact Problem.refusesSize_response_iff.not.mpr (Problem.ofSendError_ne_tooLong e)

private theorem allowance_lt_iff {limit allowance : Nat} {r : Request} (truthful : r.IsTruthful)
    (allowed : allowance? limit r = some allowance) :
    min allowance greatestBody < r.body.utf8ByteSize ↔ min limit greatestBody < r.body.utf8ByteSize := by
  rw [allowance?] at allowed
  cases stated : statedLength? r with
  | none =>
    rw [stated] at allowed
    rw [Option.some.inj allowed]
  | some n =>
    have size := truthful n stated
    simp only [stated] at allowed
    split at allowed
    next => cases allowed
    next =>
      rw [← Option.some.inj allowed]
      omega

private theorem lt_of_allowance?_eq_none {limit : Nat} {r : Request} (truthful : r.IsTruthful)
    (refused : allowance? limit r = none) : limit < r.body.utf8ByteSize := by
  rw [allowance?] at refused
  cases stated : statedLength? r with
  | none =>
    rw [stated] at refused
    cases refused
  | some n =>
    simp only [stated] at refused
    split at refused
    next long => rwa [← truthful n stated]
    next => cases refused

private theorem refusesSize_answerAt_iff (app : App) (allowance : Nat) {route : Route} (takesBody : route.takesBody = true)
    {r : Request} (json : saysJson r = true) :
    (app.answerAt route allowance r).1.RefusesSize ↔ min allowance greatestBody < r.body.utf8ByteSize := by
  cases route with
  | preview => exact refusesSize_preview_iff app allowance json
  | send => exact refusesSize_send_iff app allowance json
  | _ => cases takesBody

private theorem answerAt_of_long (app : App) {allowance : Nat} {route : Route} (takesBody : route.takesBody = true)
    {r : Request} (json : saysJson r = true) (long : min allowance greatestBody < r.body.utf8ByteSize) :
    (app.answerAt route allowance r).2 = app := by
  have unread := (readComposition_eq_tooLong_iff allowance json).mpr long
  cases route with
  | preview => simp only [answerAt,preview,unread,problem]
  | send => simp only [answerAt,send,unread,problem]
  | _ => cases takesBody

private theorem refusesSize_answer_iff {app : App} {r : Request} (post : r.method = "POST") :
    (app.answer r).1.RefusesSize ↔ (app.answerWithin (Route.ofPath? r.path) r).1.RefusesSize := by
  rw [Response.RefusesSize,answer_status post,answer_body post,Response.RefusesSize]

end App

/-- A server in whatever state refuses a request to preview or to send because of the size of its body if and only if the body
is longer than the limit that is set or than two mebibytes, whether or not the request states how long it is. Refusing leaves
the server as it was. -/
theorem refuses_size_iff (app : App) (r : Request) (post : r.method = "POST")
    (there : Route.ofPath? r.path = some .preview ∨ Route.ofPath? r.path = some .send) (json : saysJson r = true)
    (truthful : r.IsTruthful) :
    ((app.answer r).1.RefusesSize ↔
      app.settings.server.bodyLimit < r.body.utf8ByteSize ∨ greatestBody < r.body.utf8ByteSize) ∧
    ((app.answer r).1.RefusesSize → (app.answer r).2 = app) := by
  obtain ⟨route,there,takesBody⟩ : ∃ route, Route.ofPath? r.path = some route ∧ route.takesBody = true := by
    rcases there with there | there
    · exact ⟨.preview,there,rfl⟩
    · exact ⟨.send,there,rfl⟩
  have answers : route.answers r.method = true := by
    rw [Route.answers,takesBody,post]
    rfl
  have asks : ¬ r.method = "OPTIONS" := by
    rw [post]
    decide
  have limits : app.settings.server.bodyLimit < r.body.utf8ByteSize ∨ greatestBody < r.body.utf8ByteSize ↔
      min app.settings.server.bodyLimit greatestBody < r.body.utf8ByteSize := by omega
  rw [limits,App.refusesSize_answer_iff post,App.answer_snd,if_neg asks,there]
  cases allowed : App.allowance? app.settings.server.bodyLimit r with
  | none =>
    have long := App.lt_of_allowance?_eq_none truthful allowed
    simp only [App.answerWithin,allowed]
    exact ⟨iff_of_true (.inl ⟨rfl,rfl⟩) (by omega),fun _ => trivial⟩
  | some allowance =>
    simp only [App.answerWithin,allowed,answers,if_true]
    rw [← App.allowance_lt_iff truthful allowed,App.refusesSize_answerAt_iff app allowance takesBody json]
    exact ⟨Iff.rfl,App.answerAt_of_long app takesBody json⟩

/-- A request to preview that does not state its length. Its body goes on with this many blanks behind an object. -/
def paddedPreview (blanks : Nat) : Request :=
  ⟨"POST", "/api/preview", [("content-type", "application/json")],
    "\x7b\"form\":\x7b\"templateId\":\"note\"\x7d\x7d" ++ String.ofList (List.replicate blanks ' ')⟩

private theorem paddedPreview_route (blanks : Nat) : Route.ofPath? (paddedPreview blanks).path = some .preview := by
  have uri : (paddedPreview blanks).uri = "/api/preview" := rfl
  rw [Request.path,uri]
  decide +kernel

private theorem paddedPreview_saysJson (blanks : Nat) : saysJson (paddedPreview blanks) = true := by rfl

private theorem paddedPreview_statedLength? (blanks : Nat) : App.statedLength? (paddedPreview blanks) = none := by rfl

private theorem paddedPreview_size (blanks : Nat) : (paddedPreview blanks).body.utf8ByteSize = 30 + blanks := by
  have padding (n : Nat) : (String.ofList (List.replicate n ' ')).utf8ByteSize = n := by
    induction n with
    | zero => rfl
    | succ n ih =>
      rw [List.replicate_succ,String.ofList_cons,String.utf8ByteSize_append,ih,String.utf8ByteSize_singleton]
      exact Nat.add_comm 1 n
  rw [paddedPreview,String.utf8ByteSize_append,padding]
  rfl

def App.limiting (bodyLimit : Nat) : App :=
  .ofParts { server := { bodyLimit := bodyLimit } } false ⟨.null, "", ""⟩ (.empty "") (.memory []) .empty

theorem refuses_size_beyond_thirty_bytes : ((App.limiting 30).answer (paddedPreview 1)).1.RefusesSize ∧
    ¬ ((App.limiting 30).answer (paddedPreview 0)).1.RefusesSize := by
  have truthful (blanks : Nat) : (paddedPreview blanks).IsTruthful := by simp [Request.IsTruthful,paddedPreview_statedLength?]
  have answered (blanks : Nat) := (refuses_size_iff (App.limiting 30) (paddedPreview blanks) rfl
    (.inl (paddedPreview_route blanks)) (paddedPreview_saysJson blanks) (truthful blanks)).1
  simp only [paddedPreview_size] at answered
  exact ⟨(answered 1).mpr (.inl (by decide)),(answered 0).not.mpr (by decide)⟩

/-- A server that is set to let through four mebibytes refuses a body of little more than two because of its size. -/
theorem refuses_size_within_limit :
    (paddedPreview greatestBody).body.utf8ByteSize ≤ (App.limiting 4194304).settings.server.bodyLimit ∧
    ((App.limiting 4194304).answer (paddedPreview greatestBody)).1.RefusesSize := by
  rw [App.refusesSize_answer_iff rfl,paddedPreview_route,paddedPreview_size]
  refine ⟨by decide,?_⟩
  have allowed : App.allowance? (App.limiting 4194304).settings.server.bodyLimit (paddedPreview greatestBody) = some 4194304 := by
    rw [App.allowance?,paddedPreview_statedLength?]
    rfl
  have answers : Route.preview.answers (paddedPreview greatestBody).method = true := rfl
  simp only [App.answerWithin,allowed,answers,if_true]
  rw [App.refusesSize_answerAt_iff _ _ rfl (paddedPreview_saysJson greatestBody),paddedPreview_size]
  decide

end Letterpress.Server
