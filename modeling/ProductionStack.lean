import ProductionStack.Config.Hosts
import ProductionStack.Config.StaticModels
import ProductionStack.Discovery.Reconnect
import ProductionStack.Discovery.Shutdown
import ProductionStack.Discovery.Sleep
import ProductionStack.ExternalProviders.Registry
import ProductionStack.Log
import ProductionStack.Operator.Placement
import ProductionStack.Operator.Reconcile
import ProductionStack.Operator.RouterAndCacheServer
import ProductionStack.Operator.ServedModel
import ProductionStack.Operator.StatusStability
import ProductionStack.Request.Failover
import ProductionStack.Request.Framing
import ProductionStack.Request.Payloads
import ProductionStack.Request.ShowModels
import ProductionStack.Request.StallFrames
import ProductionStack.Routing.LoadAware
import ProductionStack.Routing.NoCache
import ProductionStack.Routing.PrefixAffinity
import ProductionStack.Routing.Priority
import ProductionStack.Routing.Refresh
import ProductionStack.Routing.Rotation
import ProductionStack.SemanticCache.Integration
import ProductionStack.Services.FileStorage
import ProductionStack.Services.Pagination
import ProductionStack.Stats.Interleaving
import ProductionStack.Stats.Metrics
