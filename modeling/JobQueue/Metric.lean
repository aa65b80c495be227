import JobQueue.Text.Numeral

/-! What is counted, and the names under which a scraper finds the counts. -/

namespace JobQueue

/-- What is counted of the jobs of a queue. -/
inductive JobMetric where
  | delivered
  | skipped
  | rejected
  | completed
  | failed
  /-- Requests that were handed to processing, by how long they took. -/
  | processed
  | unrecorded
  | unpublished
  | retried
  | exhausted
  deriving DecidableEq, Repr

namespace JobMetric

def name : JobMetric → String
  | delivered => "consumer_jobs_total"
  | skipped => "consumer_jobs_skipped"
  | rejected => "consumer_jobs_rejected"
  | completed => "consumer_jobs_completed"
  | failed => "consumer_jobs_failed"
  | processed => "consumer_jobs_processing_duration_seconds_count"
  | unrecorded => "consumer_dead_letter_errors"
  | unpublished => "consumer_response_publish_errors"
  | retried => "worker_jobs_retried"
  | exhausted => "worker_jobs_exhausted"

end JobMetric

/-- What is counted of the requests to the worker's own endpoints. -/
inductive RequestMetric where
  | answered
  /-- Requests by how long they took. -/
  | timed
  deriving DecidableEq, Repr

namespace RequestMetric

def name : RequestMetric → String
  | answered => "http_requests_total"
  | timed => "http_requests_duration_seconds_count"

end RequestMetric

/-- A count of its own for each combination of labels. -/
inductive Metric where
  | job (kind : JobMetric) (queue : String)
  | request (kind : RequestMetric) (method path : String) (status : Nat)
  deriving DecidableEq, Repr

namespace Metric

def name : Metric → String
  | job kind _ => kind.name
  | request kind .. => kind.name

def labels : Metric → List (String × String)
  | job _ queue => [("queue", queue)]
  | request _ method path status =>
    [("method", method), ("path", path), ("status", String.ofList (Text.natDigits status))]

/-- The value of a label as it stands between quotes. A backslash that may escape the character after
it is held back: before a quote or another backslash it is part of that character's escape, line ends
pass it by, and before all other characters it is a backslash of its own. -/
def escapeLabel (held : Bool) : List Char → List Char
  | [] => if held then ['\\', '\\'] else []
  | '\n' :: cs => '\\' :: 'n' :: escapeLabel held cs
  | '"' :: cs => '\\' :: '"' :: escapeLabel false cs
  | '\\' :: cs =>
    if held then '\\' :: '\\' :: escapeLabel false cs else escapeLabel true cs
  | c :: cs =>
    if held then '\\' :: '\\' :: c :: escapeLabel false cs else c :: escapeLabel false cs

def labelText (label : String × String) : String :=
  label.1 ++ "=\"" ++ String.ofList (escapeLabel false label.2.toList) ++ "\""

/-- The name with its labels in braces. -/
def text (m : Metric) : String :=
  m.name ++ "\x7b" ++ String.intercalate "," (m.labels.map labelText) ++ "\x7d"

end Metric

end JobQueue
