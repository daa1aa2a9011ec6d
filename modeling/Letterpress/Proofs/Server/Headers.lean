import Letterpress.Proofs.Server.Outbox

/-! The headers of a response. Whatever a server has to say for itself says what kind of text it is, and nothing else;
only what is put around an answer can speak of origins and methods. -/
namespace Letterpress.Server

/-- The values of a header, in the order in which they stand. -/
def Response.values (response : Response) (name : String) : List String :=
  (response.headers.filter (·.1 == name)).map (·.2)

/-- A response that has no header but the one for the kind of its body. -/
def Response.IsPlain (response : Response) : Prop := ∀ header ∈ response.headers, header.1 = "content-type"

namespace Response
variable {response : Response} {name : String}

private theorem values_withHeader (response : Response) (name other value : String) :
    (response.withHeader other value).values name = response.values name ++ if other = name then [value] else [] := by
  by_cases same : other = name <;> simp [values,withHeader,same]

private theorem IsPlain.values (plain : response.IsPlain) (other : "content-type" ≠ name) : response.values name = [] := by
  simp only [Response.values,List.map_eq_nil_iff,List.filter_eq_nil_iff,beq_iff_eq]
  intro header member same
  exact other ((plain header member).symm.trans same)

private theorem isPlain_ofJson (status : Nat) (value : Json) : (ofJson status value).IsPlain := by simp [IsPlain,ofJson]

private theorem isPlain_ofText (status : Nat) (text : String) : (ofText status text).IsPlain := by simp [IsPlain,ofText]

private theorem isPlain_bare (status : Nat) : (bare status).IsPlain := by simp [IsPlain,bare]

end Response

private theorem values_preflight {name : String} (methods : "access-control-allow-methods" ≠ name)
    (headers : "access-control-allow-headers" ≠ name) : preflight.values name = [] := by
  rw [preflight,Response.values_withHeader,Response.values_withHeader,if_neg methods,if_neg headers]
  rfl

private theorem Problem.isPlain_response (production : Bool) (p : Problem) : (p.response production).IsPlain :=
  Response.isPlain_ofJson _ _

namespace App

private theorem isPlain_preview (app : App) (allowance : Nat) (r : Request) : (app.preview allowance r).1.IsPlain := by
  unfold preview
  split
  next p _ => exact p.isPlain_response app.production
  next =>
    dsimp only
    split
    next => exact Response.isPlain_ofJson _ _
    next => exact Problem.isPlain_response _ _

private theorem isPlain_send (app : App) (allowance : Nat) (r : Request) : (app.send allowance r).1.IsPlain := by
  unfold send
  split
  next p _ => exact p.isPlain_response app.production
  next =>
    split
    next => exact Problem.isPlain_response _ _
    next =>
      dsimp only
      split
      next => exact Response.isPlain_ofJson _ _
      next => exact Problem.isPlain_response _ _

private theorem isPlain_answerAt (app : App) (route : Route) (allowance : Nat) (r : Request) :
    (app.answerAt route allowance r).1.IsPlain := by
  cases route with
  | health => exact Response.isPlain_ofJson _ _
  | metrics => simp [answerAt,metrics,Response.IsPlain]
  | templates =>
    simp only [answerAt,templates]
    split
    next => exact Response.isPlain_ofJson _ _
    next => exact Problem.isPlain_response _ _
  | template id =>
    simp only [answerAt,template]
    split
    next => exact Response.isPlain_ofText _ _
    next =>
      split
      next => exact Response.isPlain_ofJson _ _
      next => exact Problem.isPlain_response _ _
  | preview => exact isPlain_preview app allowance r
  | send => exact isPlain_send app allowance r

private theorem isPlain_answerWithin (app : App) (route : Option Route) (r : Request) :
    (app.answerWithin route r).1.IsPlain := by
  unfold answerWithin
  split
  next => exact Response.isPlain_ofText _ _
  next allowance _ =>
    split
    next => exact Response.isPlain_bare _
    next route =>
      split
      next => exact isPlain_answerAt app route allowance r
      next => exact Response.isPlain_bare _

private theorem answerAll_settings (app : App) (requests : List Request) :
    (app.answerAll requests).2.settings = app.settings := by
  induction requests generalizing app with
  | nil => rfl
  | cons r rest ih => exact (ih (app.answer r).2).trans (answer_settings app r)

end App

def originHeader : String := "access-control-allow-origin"

/-- A list with an entry that can stand in a header lets in who has such an entry. -/
theorem allowedOrigin?_of_known {origins : List String} {entry : String} (listed : entry ∈ origins)
    (valid : isHeaderText entry = true) (origin : Option String) (o : String) :
    allowedOrigin? origins origin = some o ↔ origin = some o ∧ o ∈ origins ∧ isHeaderText o = true := by
  have known : (origins.filter isHeaderText).isEmpty = false := by
    rw [List.isEmpty_eq_false_iff_exists_mem]
    exact ⟨entry,List.mem_filter.mpr ⟨listed,valid⟩⟩
  simp [allowedOrigin?,known,Option.filter_eq_some_iff]

private theorem allowedOrigin?_of_unknown {origins : List String} (invalid : ∀ entry ∈ origins, isHeaderText entry = false)
    (origin : Option String) : allowedOrigin? origins origin = some "*" := by
  have known : origins.filter isHeaderText = [] := by
    rw [List.filter_eq_nil_iff]
    intro entry listed valid
    rw [invalid entry listed] at valid
    contradiction
  simp [allowedOrigin?,known]

private theorem values_withOrigin (config : ServerConfig) (r : Request) (response : Response) :
    (withOrigin config r response).values originHeader =
      response.values originHeader ++ (allowedOrigin? config.corsOrigins (r.header? "origin")).toList := by
  cases allowed : allowedOrigin? config.corsOrigins (r.header? "origin") <;>
    simp [withOrigin,allowed,Response.values_withHeader,originHeader]

/-- Who is let in depends on the list and the origin of the request only, not on what is asked for or how it ends. -/
theorem App.values_answer (app : App) (r : Request) :
    (app.answer r).1.values originHeader =
      (allowedOrigin? app.settings.server.corsOrigins (r.header? "origin")).toList := by
  have inner : (if r.method = "OPTIONS" then (preflight, app)
      else app.answerWithin (Route.ofPath? r.path) r).1.values originHeader = [] := by
    split
    next => exact values_preflight (by decide) (by decide)
    next => exact (isPlain_answerWithin app _ r).values (by decide)
  have listing (route : Route) (response : Response) : (if route.answers r.method then response
      else response.withHeader "allow" route.methods).values originHeader = response.values originHeader := by
    split
    next => rfl
    next => simp [Response.values_withHeader,originHeader]
  have emptying (response : Response) : (if r.method = "HEAD" then response.withoutBody else response).values originHeader =
      response.values originHeader := by
    split <;> rfl
  have around := values_withOrigin app.settings.server r (if r.method = "OPTIONS" then (preflight, app)
      else app.answerWithin (Route.ofPath? r.path) r).1
  rw [inner,List.nil_append] at around
  refine Eq.trans ?_ around
  simp only [answer,emptying]
  split
  next route _ => exact listing route _
  next => rfl

/-- However a started server is asked, and whatever it has been asked before: if any entry of its list of origins can
stand in a header, an answer lets in an origin if and only if the request comes from there and the origin is such an
entry, and never all of them; if no entry can, every answer lets in all origins. -/
theorem listed_origins_are_let_in (app : App) (starts : app.starts = true) (earlier : List Request) (r : Request) :
    let origins := app.settings.server.corsOrigins
    let allowed := ((app.answerAll earlier).2.answer r).1.values originHeader
    ((∃ entry ∈ origins, isHeaderText entry = true) →
      (∀ o, allowed = [o] ↔ r.header? "origin" = some o ∧ o ∈ origins ∧ isHeaderText o = true) ∧
      (allowed = [] ∨ ∃ o, allowed = [o]) ∧ "*" ∉ allowed) ∧
    ((∀ entry ∈ origins, isHeaderText entry = false) → allowed = ["*"]) := by
  intro origins allowed
  have same : allowed = (allowedOrigin? origins (r.header? "origin")).toList := by
    change ((app.answerAll earlier).2.answer r).1.values originHeader = _
    rw [App.values_answer,App.answerAll_settings]
  constructor
  · rintro ⟨entry,listed,valid⟩
    have lets := allowedOrigin?_of_known listed valid (r.header? "origin")
    have unstarred : "*" ∉ origins := by simpa [App.starts,isOriginList] using starts
    rw [same]
    refine ⟨fun o => ?_,?_,fun star => ?_⟩
    · rw [← lets o,Option.toList_eq_singleton_iff]
    · cases allowedOrigin? origins (r.header? "origin") with
      | none => exact .inl rfl
      | some o => exact .inr ⟨o,rfl⟩
    · exact unstarred ((lets "*").mp (Option.mem_toList.mp star)).2.1
  · intro invalid
    rw [same,allowedOrigin?_of_unknown invalid]
    rfl

/-- A server whose list of origins has the one entry. -/
def App.listing (entry : String) : App :=
  .ofParts { server := { corsOrigins := [entry] } } false ⟨.null, "", ""⟩ (.empty "") (.memory []) .empty

def foreignRequest : Request := ⟨"GET", "/health", [("Origin", "https://elsewhere.example")], ""⟩

theorem listed_origins_are_let_in_at_home : (App.listing "https://home.example").starts = true ∧
    "*" ∉ ((App.listing "https://home.example").answer foreignRequest).1.values originHeader := by
  have starts : (App.listing "https://home.example").starts = true := by decide
  have lets := (listed_origins_are_let_in (App.listing "https://home.example") starts [] foreignRequest).1
  exact ⟨starts,(lets ⟨"https://home.example",by decide,by decide⟩).2.2⟩

/-- An entry that ends in a line break cannot stand in a header, and a list with nothing else lets everybody in. -/
theorem line_break_lets_all_in : (App.listing "https://home.example\n").starts = true ∧
    (App.listing "https://home.example\n").settings.server.corsOrigins ≠ [] ∧
    ((App.listing "https://home.example\n").answer foreignRequest).1.values originHeader = ["*"] := by
  decide

end Letterpress.Server
