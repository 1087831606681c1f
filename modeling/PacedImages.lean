import PacedImages.Http
import PacedImages.Main
import PacedImages.Param.ValueText
import PacedImages.Proofs.BenchClock
import PacedImages.Proofs.Publisher.Consumer
import PacedImages.Proofs.Publisher.Schedule
import PacedImages.Proofs.Time.TimerSet
import PacedImages.Scene
import PacedImages.Shutdown
import PacedImages.Proofs.Image.Decoding
import PacedImages.Proofs.Time.Boundary
import PacedImages.Proofs.Time.Handles
import PacedImages.Proofs.Dispatch.Trace
import PacedImages.Proofs.Dispatch.Discipline
import PacedImages.Proofs.Publisher.Turns
import PacedImages.Proofs.Publisher.Rate
import PacedImages.Proofs.Publisher.Loading
import PacedImages.Proofs.Param.Precedence
import PacedImages.Proofs.Publisher.Creation
import PacedImages.Proofs.Messaging.Isolation
import PacedImages.Proofs.Time.Draining
import PacedImages.Proofs.Image.Defects
import PacedImages.Proofs.Publisher.Dimensions
import PacedImages.Proofs.Messaging.Requests
import PacedImages.Proofs.Messaging.Prefix
import PacedImages.Proofs.Publisher.Crash
import PacedImages.Proofs.Image.Stamper
import PacedImages.Proofs.Param.Layers
import PacedImages.Proofs.Param.Mapping
import PacedImages.Proofs.Param.Section
import PacedImages.Proofs.Param.FileWatch
import PacedImages.Proofs.Param.Waiting
import PacedImages.Proofs.Publisher.FromParameters
import PacedImages.Proofs.Publisher.Fleet
import PacedImages.Proofs.Messaging.SubjectBook
import PacedImages.Proofs.Param.Assignments
import PacedImages.Proofs.Publisher.Attempts
import PacedImages.Proofs.Time.CatchUp
