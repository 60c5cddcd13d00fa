import Buffet.Error
import Buffet.ErrorConversion
import Buffet.Values
import Buffet.Decimal
import Buffet.Manager
import Buffet.Manager.Registration
import Buffet.Manager.UpdateState
import Buffet.Manager.Commands
import Buffet.Manager.Replies
import Buffet.Process
import Buffet.Process.Registry
import Buffet.Process.Replies
import Buffet.Process.State
import Buffet.Daemon
