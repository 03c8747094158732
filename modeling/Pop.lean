import Pop.Node.Command
import Pop.Node.Message
import Pop.Storage.Deal
import Pop.Storage.Quote
import Pop.Storage.Store
import Pop.Supply.Authorization
import Pop.Supply.Consistency
import Pop.Supply.Isolation
import Pop.Supply.Retention
import Pop.Utils.Repo
