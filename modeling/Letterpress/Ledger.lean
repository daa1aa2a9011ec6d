import Letterpress.Keyed

/-! What happened, in order, and the samples that are counted from it. -/
namespace Letterpress

inductive Event
  | rendered
  | renderFailed (kind : String)
  | cacheHit
  | cacheMiss
  | sent (transport : String) (recipients : Nat)
  | sendFailed (reason : String)
  deriving DecidableEq, Repr

inductive Sample
  | renders (outcome : String)
  | renderErrors (kind : String)
  | renderDurations (outcome : String)
  | cacheLookups (result : String)
  | emailsSent (transport : String)
  | sendFailures (reason : String)
  | recipientsUpTo (bound : Option Nat)
  | recipientsSum
  | recipientsCount
  deriving DecidableEq, Repr

def labelled (name label value : String) : String := "mailer_" ++ name ++ "\x7b" ++ label ++ "=\"" ++ value ++ "\"\x7d"

/-- The full name of a sample. A bucket without a bound holds everything. -/
def Sample.name : Sample → String
  | renders outcome => labelled "renders_total" "outcome" outcome
  | renderErrors kind => labelled "render_errors_total" "kind" kind
  | renderDurations outcome => labelled "render_duration_seconds_count" "outcome" outcome
  | cacheLookups result => labelled "template_cache_total" "result" result
  | emailsSent transport => labelled "emails_sent_total" "transport" transport
  | sendFailures reason => labelled "send_failures_total" "reason" reason
  | recipientsUpTo (some bound) => labelled "recipients_per_send_bucket" "le" (toString bound)
  | recipientsUpTo none => labelled "recipients_per_send_bucket" "le" "+Inf"
  | recipientsSum => "mailer_recipients_per_send_sum"
  | recipientsCount => "mailer_recipients_per_send_count"

def recipientBounds : List Nat := [1, 2, 5, 10, 25, 50, 100, 250, 500]

def Event.marks : Event → List (Sample × Nat)
  | rendered => [(.renders "success", 1), (.renderDurations "success", 1)]
  | renderFailed kind => [(.renders "error", 1), (.renderErrors kind, 1), (.renderDurations "error", 1)]
  | cacheHit => [(.cacheLookups "hit", 1)]
  | cacheMiss => [(.cacheLookups "miss", 1)]
  | sent transport recipients =>
    [(.emailsSent transport, 1), (.recipientsCount, 1), (.recipientsSum, recipients), (.recipientsUpTo none, 1)] ++
      (recipientBounds.filter (recipients ≤ ·)).map fun bound => (.recipientsUpTo (some bound), 1)
  | sendFailed reason => [(.sendFailures reason, 1)]

def counted (sample : Sample) : List (Sample × Nat) → Nat
  | [] => 0
  | (marked, n) :: marks => (if marked = sample then n else 0) + counted sample marks

theorem counted_append (sample : Sample) (before after : List (Sample × Nat)) :
    counted sample (before ++ after) = counted sample before + counted sample after := by
  induction before with
  | nil => simp [counted]
  | cons mark before ih => simp only [List.cons_append,counted,ih,Nat.add_assoc]

def total (sample : Sample) (events : List Event) : Nat := counted sample (events.flatMap Event.marks)

theorem total_append (sample : Sample) (before after : List Event) :
    total sample (before ++ after) = total sample before + total sample after := by
  simp only [total,List.flatMap_append,counted_append]

/-- All samples that are not zero after some events, by name. -/
def totals (events : List Event) : List (String × Nat) :=
  let samples := ((events.flatMap Event.marks).map (·.1)).eraseDups
  Keyed.ofList ((samples.map fun sample => (sample.name, total sample events)).filter (·.2 ≠ 0))

end Letterpress
