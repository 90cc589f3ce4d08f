import Switchboard.Admission.Basic
import Switchboard.Admission.Policy
import Switchboard.Call.Basic
import Switchboard.Call.Foreground
import Switchboard.Call.Json
import Switchboard.Config.Basic
import Switchboard.Config.Form
import Switchboard.Desk.Audio
import Switchboard.Desk.Basic
import Switchboard.Desk.Manager
import Switchboard.Desk.Operation
import Switchboard.Desk.Requests
import Switchboard.Error
import Switchboard.Event
import Switchboard.Journal
import Switchboard.Json
import Switchboard.Logging
import Switchboard.Outside
import Switchboard.Playback.Bench
import Switchboard.Playback.Sound
import Switchboard.Playback.Source
import Switchboard.Playback.Studio
import Switchboard.Playback.Tone
import Switchboard.Playback.Worker
import Switchboard.Posture.Basic
import Switchboard.Posture.Edges
import Switchboard.Posture.Machine
import Switchboard.Proofs.Admission.Actions
import Switchboard.Proofs.Admission.Clearing
import Switchboard.Proofs.Admission.Monotone
import Switchboard.Proofs.Admission.Order
import Switchboard.Proofs.Admission.Outcomes
import Switchboard.Proofs.Admission.Places
import Switchboard.Proofs.Admission.Targets
import Switchboard.Proofs.Call.Foreground
import Switchboard.Proofs.Call.Records
import Switchboard.Proofs.Config.Agreement
import Switchboard.Proofs.Config.Durations
import Switchboard.Proofs.Config.Settings
import Switchboard.Proofs.Desk.Acting
import Switchboard.Proofs.Desk.Announced
import Switchboard.Proofs.Desk.Attendance
import Switchboard.Proofs.Desk.AudioMutations
import Switchboard.Proofs.Desk.AudioSteps
import Switchboard.Proofs.Desk.CallReplay
import Switchboard.Proofs.Desk.Conference
import Switchboard.Proofs.Desk.Core
import Switchboard.Proofs.Desk.Earpiece
import Switchboard.Proofs.Desk.Edits
import Switchboard.Proofs.Desk.Ends
import Switchboard.Proofs.Desk.Execution
import Switchboard.Proofs.Desk.FreshNumbers
import Switchboard.Proofs.Desk.HeldBack
import Switchboard.Proofs.Desk.History
import Switchboard.Proofs.Desk.Keys
import Switchboard.Proofs.Desk.Leaving
import Switchboard.Proofs.Desk.LoneActive
import Switchboard.Proofs.Desk.Microphone
import Switchboard.Proofs.Desk.Mirror
import Switchboard.Proofs.Desk.Mutations
import Switchboard.Proofs.Desk.Numbering
import Switchboard.Proofs.Desk.Occupancy
import Switchboard.Proofs.Desk.OperationSteps
import Switchboard.Proofs.Desk.Players
import Switchboard.Proofs.Desk.PostureFollows
import Switchboard.Proofs.Desk.Refusals
import Switchboard.Proofs.Desk.Relay
import Switchboard.Proofs.Desk.Repeated
import Switchboard.Proofs.Desk.Resumption
import Switchboard.Proofs.Desk.Routing
import Switchboard.Proofs.Desk.Scene
import Switchboard.Proofs.Desk.Steps
import Switchboard.Proofs.Desk.Sure
import Switchboard.Proofs.Desk.Switching
import Switchboard.Proofs.Desk.VideoReplay
import Switchboard.Proofs.Desk.Wiring
import Switchboard.Proofs.Json.Members
import Switchboard.Proofs.Playback.Additions
import Switchboard.Proofs.Playback.Books
import Switchboard.Proofs.Playback.Ensemble
import Switchboard.Proofs.Playback.Lasting
import Switchboard.Proofs.Playback.Ledger
import Switchboard.Proofs.Playback.Moves
import Switchboard.Proofs.Playback.Timing
import Switchboard.Proofs.Posture.Edges
import Switchboard.Proofs.Posture.Follows
import Switchboard.Proofs.Posture.Pairing
import Switchboard.Proofs.Registry.Effects
import Switchboard.Proofs.Registry.Table
import Switchboard.Proofs.Route.Fitting
import Switchboard.Proofs.Text.Numerals
import Switchboard.Proofs.Time.Timestamps
import Switchboard.Registry
import Switchboard.Registry.Operation
import Switchboard.Route.Basic
import Switchboard.Route.Machine
import Switchboard.Signal
import Switchboard.Spelled
import Switchboard.Text.Basic
import Switchboard.Text.Combining
import Switchboard.Text.Unprintable
import Switchboard.Time.Calendar
import Switchboard.Time.Timestamp
import Switchboard.Toml.Document
import Switchboard.Toml.Scan
import Switchboard.Toml.Value
