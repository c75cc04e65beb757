import RedisOperator.Cluster.FailoverPromotion
import RedisOperator.Cluster.HandoverProtocol
import RedisOperator.Restore.ShardMapping
import RedisOperator.Instance.SlotMigration
import RedisOperator.Instance.ClusterNodes
import RedisOperator.Restore.Boot
import RedisOperator.Backup.Lifecycle
import RedisOperator.Backup.ScheduleRuns
import RedisOperator.Backup.Retention
import RedisOperator.Restore.Location
import RedisOperator.Restore.RoundTrip
import RedisOperator.Restore.Confinement
import RedisOperator.Restore.AllOrNothing
import RedisOperator.Restore.Expansion
import RedisOperator.Cluster.RoleLabels
import RedisOperator.Cluster.Disruption
import RedisOperator.Cluster.SecretOwnership
import RedisOperator.Instance.Startup
import RedisOperator.Manager.WebhookPKI
import RedisOperator.Cluster.QuietCluster
import RedisOperator.Cluster.LayoutOrder
import RedisOperator.Cluster.HealthyPhase
import RedisOperator.Cluster.Scaling
import RedisOperator.Cluster.ReachablePrimaries
