import Inquest.Chat
import Inquest.Conversation.Summary
import Inquest.Lint
import Inquest.Main
import Inquest.Proofs.Agenda.Clock
import Inquest.Proofs.Agenda.Tickets
import Inquest.Proofs.Answers.Repeats
import Inquest.Proofs.Chat
import Inquest.Proofs.Conversation.Backstage
import Inquest.Proofs.Conversation.Choice
import Inquest.Proofs.Conversation.Lockstep
import Inquest.Proofs.Conversation.Polling
import Inquest.Proofs.Conversation.Progress
import Inquest.Proofs.Conversation.Quiet
import Inquest.Proofs.Conversation.Record
import Inquest.Proofs.Conversation.Rest
import Inquest.Proofs.Conversation.Revealing
import Inquest.Proofs.Conversation.Ruling
import Inquest.Proofs.Conversation.Secrecy
import Inquest.Proofs.Conversation.Skipping
import Inquest.Proofs.Conversation.Story
import Inquest.Proofs.Conversation.Timing
import Inquest.Proofs.Conversation.Travel
import Inquest.Proofs.Conversation.Untimed
import Inquest.Proofs.Dialogue.Cycle
import Inquest.Proofs.Dialogue.Delivery
import Inquest.Proofs.Dialogue.Docket
import Inquest.Proofs.Dialogue.Progress
import Inquest.Proofs.Dialogue.Untimed
import Inquest.Proofs.Lint
import Inquest.Proofs.Marks
import Inquest.Proofs.Pacing
import Inquest.Proofs.Script.Feedback
import Inquest.Proofs.Script.Loading
import Inquest.Proofs.Script.Loops
import Inquest.Proofs.Script.Paths
import Inquest.Proofs.Script.Search
import Inquest.Proofs.Shell.Choosing
import Inquest.Proofs.Template.Append
import Inquest.Proofs.Template.Writing
import Inquest.Shell.Session
