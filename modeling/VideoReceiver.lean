import VideoReceiver.Bench.Board
import VideoReceiver.Bench.Radio
import VideoReceiver.Bench.Screen
import VideoReceiver.Config.LogFilter
import VideoReceiver.Config.Reader
import VideoReceiver.Net.Address.Parser
import VideoReceiver.Receiver
import VideoReceiver.Proofs.AnnexB.Layout
import VideoReceiver.Proofs.AnnexB.Keyframe
import VideoReceiver.Proofs.Hardware.Ledger
import VideoReceiver.Proofs.Pool.Accounting
import VideoReceiver.Proofs.Pool.Generations
import VideoReceiver.Proofs.Decode.Steps
import VideoReceiver.Proofs.Decode.Generation
import VideoReceiver.Proofs.Decode.Balance
import VideoReceiver.Proofs.Decode.Backlog
import VideoReceiver.Proofs.Decode.Refusals
import VideoReceiver.Proofs.Decode.Transcript
import VideoReceiver.Proofs.Decode.Fates
import VideoReceiver.Proofs.Decode.Attribution
import VideoReceiver.Proofs.Decode.Draining
import VideoReceiver.Proofs.Display.Commit
import VideoReceiver.Proofs.Display.Statistics
import VideoReceiver.Proofs.Repair.Ownership
import VideoReceiver.Proofs.Repair.Effects
import VideoReceiver.Proofs.Repair.Answers
import VideoReceiver.Proofs.Repair.Completion
import VideoReceiver.Proofs.Repair.Switch
import VideoReceiver.Proofs.Link.Steps
import VideoReceiver.Proofs.Link.Transitions
import VideoReceiver.Proofs.Link.Cooldown
import VideoReceiver.Proofs.Link.Independence
import VideoReceiver.Proofs.Link.Deferral
import VideoReceiver.Proofs.Link.Loss
import VideoReceiver.Proofs.Link.Likeness
import VideoReceiver.Proofs.Link.Renewal
import VideoReceiver.Proofs.Link.SequenceWord
import VideoReceiver.Proofs.Mailbox.Delivery
import VideoReceiver.Proofs.Receiver.Conservation
import VideoReceiver.Proofs.Receiver.Ingestion
import VideoReceiver.Proofs.Receiver.Pace
import VideoReceiver.Proofs.Receiver.Networks
import VideoReceiver.Proofs.Repair.Timetable
