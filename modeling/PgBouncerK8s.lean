import PgBouncerK8s.Lib.Decimal
import PgBouncerK8s.Lib.Dict
import PgBouncerK8s.Lib.KeyValue
import PgBouncerK8s.Lib.Machine
import PgBouncerK8s.Lib.Pipeline
import PgBouncerK8s.Lib.Template
import PgBouncerK8s.Lib.Text
import PgBouncerK8s.Model.App
import PgBouncerK8s.Model.CharmConfig
import PgBouncerK8s.Routing.Databases
import PgBouncerK8s.Routing.Config
import PgBouncerK8s.Relations.Db
import PgBouncerK8s.Relations.PgbouncerProvider
import PgBouncerK8s.Relations.Setup
import PgBouncerK8s.Routing.Leadership
import PgBouncerK8s.Routing.Wildcard
import PgBouncerK8s.Routing.Teardown
import PgBouncerK8s.Relations.Credentials
import PgBouncerK8s.Relations.Delivery
import PgBouncerK8s.Workload.Port
import PgBouncerK8s.Relations.Sync
import PgBouncerK8s.Auth.AuthFile
import PgBouncerK8s.Auth.Secrets
import PgBouncerK8s.Auth.Userlist
import PgBouncerK8s.Routing.Lifecycle
import PgBouncerK8s.Routing.AuthFunction
import PgBouncerK8s.Routing.Render
import PgBouncerK8s.Routing.SameConfig
import PgBouncerK8s.Routing.Emitted
import PgBouncerK8s.Auth.Initialise
import PgBouncerK8s.Auth.PeerSecrets
import PgBouncerK8s.Auth.Migration
import PgBouncerK8s.Lib.Action
import PgBouncerK8s.Lib.Correspondence
import PgBouncerK8s.Operator.State
import PgBouncerK8s.Operator.Workload
import PgBouncerK8s.Operator.Handlers
import PgBouncerK8s.Operator.Errors
import PgBouncerK8s.Operator.Deployment
import PgBouncerK8s.Operator.Access
import PgBouncerK8s.Operator.Active
import PgBouncerK8s.Operator.ConfigErrors
import PgBouncerK8s.Operator.Removal
import PgBouncerK8s.Operator.Blocked
import PgBouncerK8s.Operator.Refinement
import PgBouncerK8s.Operator.Sticky
import PgBouncerK8s.Operator.PeerChanged
import PgBouncerK8s.Operator.Upgrade
import PgBouncerK8s.Operator.Provisioning
import PgBouncerK8s.Relations.Endpoints
import PgBouncerK8s.Relations.Connection
import PgBouncerK8s.Relations.LegacyHost
import PgBouncerK8s.Relations.Allowed
import PgBouncerK8s.Relations.ConnectionString
import PgBouncerK8s.Relations.SyncHba
import PgBouncerK8s.Workload.Service
import PgBouncerK8s.Workload.HostsPorts
import PgBouncerK8s.Workload.Restart
import PgBouncerK8s.Workload.Metrics
import PgBouncerK8s.Workload.Tls
import PgBouncerK8s.Operator.ConfigChanged
import PgBouncerK8s.Operator.RestartView
import PgBouncerK8s.Operator.PortView
import PgBouncerK8s.Operator.Views
import PgBouncerK8s.Upgrade.DataUpgrade
import PgBouncerK8s.Upgrade.OneAtATime
import PgBouncerK8s.Upgrade.Rollout
import PgBouncerK8s.Upgrade.Frozen
import PgBouncerK8s.Upgrade.Repair
import PgBouncerK8s.Upgrade.Steady
import PgBouncerK8s.Upgrade.Progress
import PgBouncerK8s.Relations.Roles
import PgBouncerK8s.Relations.SecretData
import PgBouncerK8s.Relations.SecretExchange
import PgBouncerK8s.Relations.SecretRuns
import PgBouncerK8s.Routing.Injection
import PgBouncerK8s.Routing.PoolSizes
import PgBouncerK8s.Routing.Removed
import PgBouncerK8s.Routing.LegacyConfig
import PgBouncerK8s.Routing.AliasLimit
import PgBouncerK8s.Certificates.Answers
import PgBouncerK8s.Certificates.Removal
import PgBouncerK8s.Certificates.Livelock
import PgBouncerK8s.Auth.DatabaseCreated
