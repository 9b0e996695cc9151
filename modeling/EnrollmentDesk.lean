import EnrollmentDesk.Main
import EnrollmentDesk.Chat.Handler
import EnrollmentDesk.Json.Printer
import EnrollmentDesk.Registration.Form
import EnrollmentDesk.Proofs.Atomicity
import EnrollmentDesk.Proofs.Promotion
import EnrollmentDesk.Proofs.Demotion
import EnrollmentDesk.Proofs.Conflict
import EnrollmentDesk.Proofs.Cancellation
import EnrollmentDesk.Proofs.CodeText
import EnrollmentDesk.Proofs.IssuedCode
import EnrollmentDesk.Proofs.ChatLink
import EnrollmentDesk.Proofs.Identity
import EnrollmentDesk.Proofs.Account
import EnrollmentDesk.Proofs.SingleUse
import EnrollmentDesk.Proofs.Recipient
import EnrollmentDesk.Proofs.Outline
import EnrollmentDesk.Proofs.Interchange
import EnrollmentDesk.Proofs.HandedOut
import EnrollmentDesk.Proofs.Delivery
import EnrollmentDesk.Proofs.Admin
import EnrollmentDesk.Proofs.InRange
import EnrollmentDesk.Proofs.Answer
import EnrollmentDesk.Proofs.Plan
import EnrollmentDesk.Proofs.SettingsRange
import EnrollmentDesk.Proofs.Folder
import EnrollmentDesk.Proofs.Picture
import EnrollmentDesk.Proofs.FollowedPlan
import EnrollmentDesk.Proofs.WaitingLine
import EnrollmentDesk.Proofs.FreedSeat
import EnrollmentDesk.Proofs.Roster
import EnrollmentDesk.Proofs.Newcomer
import EnrollmentDesk.Proofs.Admission
import EnrollmentDesk.Proofs.Window
import EnrollmentDesk.Proofs.Removal
import EnrollmentDesk.Proofs.Ranking
import EnrollmentDesk.Proofs.Capacity
import EnrollmentDesk.Proofs.FamilyList
import EnrollmentDesk.Proofs.Pattern
import EnrollmentDesk.Proofs.CodeGrammar
import EnrollmentDesk.Proofs.DrawnCode
import EnrollmentDesk.Proofs.Entity
import EnrollmentDesk.Proofs.MessageMarkup
import EnrollmentDesk.Proofs.TimeZone
import EnrollmentDesk.Proofs.DayBounds
import EnrollmentDesk.Proofs.TypedNumbers
