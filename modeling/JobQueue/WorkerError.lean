import JobQueue.Queue.Basic
import JobQueue.Url.Basic

/-! Why a worker cannot be started, or why its loop ends. -/

namespace JobQueue

inductive WorkerError where
  | connection (cause : StoreError)
  | queue (cause : QueueError)
  | processingUrl (cause : UrlFault)
  deriving Repr

namespace WorkerError

def message : WorkerError → String
  | connection cause => "failed to connect to the store: " ++ cause.message
  | queue cause => "an error occurred in the underlying queue: " ++ cause.message
  | processingUrl cause => "error parsing processing url: " ++ cause.message

end WorkerError

end JobQueue
