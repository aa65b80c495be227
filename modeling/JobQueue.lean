import JobQueue.Host
import JobQueue.Http.Endpoints
import JobQueue.Http.Service
import JobQueue.Settings
import JobQueue.Store.Remote
import JobQueue.WorkerError
import JobQueue.Proofs.Interleaving
import JobQueue.Proofs.Account
import JobQueue.Proofs.Store.Commands
import JobQueue.Proofs.Store.Flow
import JobQueue.Proofs.Json.Numeral
import JobQueue.Proofs.Queue.Stage
import JobQueue.Proofs.Queue.Staged
import JobQueue.Proofs.Dedup.Late
import JobQueue.Proofs.Consumer.Gates
import JobQueue.Proofs.Consumer.Once
import JobQueue.Proofs.Queue.Flow
import JobQueue.Proofs.Queue.Holding
import JobQueue.Proofs.Queue.InTime
import JobQueue.Proofs.Queue.Keeping
import JobQueue.Proofs.Queue.Loss
import JobQueue.Proofs.Queue.Promoted
import JobQueue.Proofs.Queue.Rescheduled
import JobQueue.Proofs.Reliable
import JobQueue.Proofs.Worker.Alone
import JobQueue.Proofs.Worker.Budget
import JobQueue.Proofs.Worker.Settled
import JobQueue.Proofs.Queue.Outstanding
import JobQueue.Proofs.Consumer.Order
import JobQueue.Proofs.Job.ReadBack
import JobQueue.Proofs.Queue.Settlement
import JobQueue.Proofs.Json.Depth
import JobQueue.Proofs.Queue.Passage
import JobQueue.Proofs.View
import JobQueue.Proofs.Worker.Concurrency
import JobQueue.Proofs.Consumer.Books
import JobQueue.Proofs.Consumer.DeadLetters
import JobQueue.Proofs.Health.Reports
import JobQueue.Proofs.Worker.Turns
import JobQueue.Proofs.Worker.Liveness
import JobQueue.Proofs.Queue.Poll
import JobQueue.Proofs.Worker.Sifting
import JobQueue.Proofs.Consumer.Independence
import JobQueue.Proofs.Text.Bytes
import JobQueue.Proofs.Store.Server
import JobQueue.Proofs.Store.Agreement
import JobQueue.Proofs.Store.Clients
import JobQueue.Proofs.Settings
import JobQueue.Proofs.Queue.Registration
import JobQueue.Proofs.Queue.Order
import JobQueue.Proofs.Queue.Apart
import JobQueue.Proofs.Worker.Panics
import JobQueue.Proofs.Text.Trim
import JobQueue.Proofs.Validation
import JobQueue.Proofs.Word
import JobQueue.Proofs.Retry
import JobQueue.Proofs.Consumer.Rejection
import JobQueue.Proofs.Http.Exchange
import JobQueue.Proofs.Store.Scores
import JobQueue.Proofs.Store.Removal
import JobQueue.Proofs.Http.Pages
import JobQueue.Proofs.Http.Paging
import JobQueue.Proofs.Health.Latest
