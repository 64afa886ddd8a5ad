import SetupBatch.Archive
import SetupBatch.FileTree
import SetupBatch.Main
import SetupBatch.Proofs.Replay
import SetupBatch.Proofs.Law
import SetupBatch.Proofs.Figures
import SetupBatch.Proofs.Moment
import SetupBatch.Proofs.Milestones
import SetupBatch.Proofs.Course
import SetupBatch.Proofs.Capacity
import SetupBatch.Proofs.Deeds
import SetupBatch.Proofs.Transcript
import SetupBatch.Proofs.Barrier
import SetupBatch.Proofs.Columns
import SetupBatch.Proofs.Header
import SetupBatch.Proofs.Notices
import SetupBatch.Proofs.Decision
import SetupBatch.Proofs.Forecast
import SetupBatch.Proofs.Attendance
import SetupBatch.Proofs.Protocol
import SetupBatch.Proofs.Refusal
import SetupBatch.Proofs.Rows
import SetupBatch.Proofs.Display
import SetupBatch.Proofs.Rejection
import SetupBatch.Proofs.Isolation
import SetupBatch.Proofs.Solo
import SetupBatch.Proofs.Reading
import SetupBatch.Proofs.Slots
